import BracketCue.Terminal.Op
import BracketCue.Text.Quoted

/-!
# Spelling

Operations by name, separated by spaces, as in `left(1) save highlight('(') restore`.
-/
namespace BracketCue.Terminal

/-- A name with its argument in parentheses. -/
def call (name argument : Text) : Text :=
  name ++ '(' :: argument ++ [')']

def Op.spell : Op → Text
  | .left n => call "left".toList (Text.decimal n)
  | .right n => call "right".toList (Text.decimal n)
  | .up n => call "up".toList (Text.decimal n)
  | .down n => call "down".toList (Text.decimal n)
  | .save => "save".toList
  | .restore => "restore".toList
  | .highlight c => call "highlight".toList (Text.quotedSingle c)
  | .unhighlight c => call "unhighlight".toList (Text.quotedSingle c)

/-- Operations by name, in order. Mirrors `describe`. -/
def spell (ops : List Op) : Text :=
  Text.join [' '] (ops.map Op.spell)

end BracketCue.Terminal
