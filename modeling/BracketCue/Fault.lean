import BracketCue.Text.Numeral

/-!
# Faults

The conditions that callers of the library must meet. A value that would break one is never
built; what a caller asked for is refused with the cause instead.
-/
namespace BracketCue

/-- Why a value of the domain cannot be built. -/
inductive Fault
  /-- A screen without columns. -/
  | zeroWidth
  /-- A pair whose opener does not stand before its closer. -/
  | reversedPair (opener closer : Nat)
  /-- A cursor beyond the end of its line. -/
  | cursorOutOfRange (cursor length : Nat)
  deriving DecidableEq, Repr

def Fault.message : Fault → Text
  | .zeroWidth => "terminal width must be at least 1".toList
  | .reversedPair opener closer =>
    "pair must open before it closes: ".toList ++ Text.decimal opener ++ " >= ".toList ++
      Text.decimal closer
  | .cursorOutOfRange cursor length =>
    "cursor ".toList ++ Text.decimal cursor ++ " out of range for line of ".toList ++
      Text.decimal length ++ " chars".toList

end BracketCue
