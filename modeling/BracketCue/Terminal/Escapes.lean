import BracketCue.Terminal.Op
import BracketCue.Terminal.Style

/-!
# Escape sequences

Operations as the escape sequences that a terminal obeys, and a form of them that people can read.
-/
namespace BracketCue.Terminal

/-- The sequence that moves the cursor, `final` being the letter of the direction. -/
def moveSequence (count : Nat) (final : Char) : Text :=
  [esc, '['] ++ Text.decimal count ++ [final]

/-- What is sent for one operation. Mirrors `encode_op`. -/
def Op.escapes (style : Style) : Op → Text
  | .left n => moveSequence n 'D'
  | .right n => moveSequence n 'C'
  | .up n => moveSequence n 'A'
  | .down n => moveSequence n 'B'
  | .save => [esc, '7']
  | .restore => [esc, '8']
  | .highlight c => style.highlightSequence ++ [c]
  | .unhighlight c => Style.plainSequence ++ [c]

/-- What is sent for operations in order. Mirrors `encode`. -/
def escapes (style : Style) (ops : List Op) : Text :=
  ops.flatMap (Op.escapes style)

/-- A text with each escape character shown as `^[`. Mirrors `escape_visible`. -/
def visible (text : Text) : Text :=
  text.flatMap fun c => if c = esc then ['^', '['] else [c]

theorem visible_append (a b : Text) : visible (a ++ b) = visible a ++ visible b :=
  List.flatMap_append

end BracketCue.Terminal
