import BracketCue.Text.Numeral

/-!
# Highlight styles

How a highlighted character looks, and the escape sequences that begin and end the look.
-/
namespace BracketCue.Terminal

def esc : Char := '\x1b'

/-- The look of a highlighted character: bold or not, and the code of its background. Mirrors
`HighlightStyle`. -/
structure Style where
  bold : Bool
  background : Nat
  deriving DecidableEq, Repr

namespace Style

/-- Bold on green. -/
def standard : Style :=
  ⟨true, 42⟩

/-- The colors that have names, with their codes. -/
def colors : List (Text × Nat) :=
  [("black".toList, 40), ("red".toList, 41), ("green".toList, 42), ("yellow".toList, 43),
   ("blue".toList, 44), ("magenta".toList, 45), ("cyan".toList, 46), ("white".toList, 47)]

/-- The code of a background name, whose ASCII letters may be of either case. Mirrors
`background_code`. -/
def colorCode? (name : Text) : Option Nat :=
  colors.lookup (Text.lowerAscii name)

/-- The sequences written before a highlighted character: the weight, then the colors.
Mirrors `on`. -/
def highlightSequence (s : Style) : Text :=
  (if s.bold then [esc, '[', '1', 'm'] else []) ++
    [esc, '[', ';', '3', '9', ';'] ++ Text.decimal s.background ++ ['m']

/-- The sequences written before a character that loses its highlight. They are the same for all
styles. Mirrors `off`. -/
def plainSequence : Text :=
  [esc, '[', '0', ';', '2', '2', 'm', esc, '[', ';', '3', '9', ';', '4', '9', 'm']

end Style
end BracketCue.Terminal
