import BracketCue.Screen.Basic

/-!
# Travel

The signed number of rows and columns from one cell to another. Coordinates are machine words:
one that is at least `2 ^ 63` is read as a negative number, and a difference that is too far for a
signed word goes the other way round. No real line is that long.
-/
namespace BracketCue

/-- What a signed 64-bit word keeps of a number. -/
def wrapped (n : Int) : Int :=
  n.bmod UInt64.size

/-- A 64-bit word read as a signed number. -/
def signed (n : Nat) : Int :=
  wrapped n

/-- Rows down and columns to the right; negative numbers go up and to the left. -/
structure Travel where
  rows : Int
  cols : Int
  deriving DecidableEq, Repr

/-- The way from one cell to another. Mirrors `delta_between`. -/
def Cell.travelTo (start target : Cell) : Travel :=
  ⟨wrapped (signed target.row - signed start.row), wrapped (signed target.col - signed start.col)⟩

/-- The way from one offset of an endless line to another. Mirrors `delta`. -/
def Columns.travel (w : Columns) (start target : Nat) : Travel :=
  (w.cellAt start start).travelTo (w.cellAt target target)

end BracketCue
