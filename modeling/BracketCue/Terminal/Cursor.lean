import BracketCue.Screen.Travel
import BracketCue.Terminal.Op

/-!
# The model cursor

Where operations take a cursor that has signed coordinates and a stack of remembered places. It
knows no edges: writing a character always advances it by one column, and only the final place is
cut off at zero.
-/
namespace BracketCue.Terminal

/-- A place with signed coordinates. -/
structure Place where
  row : Int
  col : Int
  deriving DecidableEq, Repr

/-- The model cursor. -/
structure Cursor where
  place : Place
  saved : List Place
  deriving DecidableEq, Repr

namespace Cursor

def start (c : Cell) : Cursor :=
  ⟨⟨signed c.row, signed c.col⟩, []⟩

/-- The cursor after moving by rows and columns. -/
def shift (c : Cursor) (rows cols : Int) : Cursor :=
  { c with place := ⟨c.place.row + rows, c.place.col + cols⟩ }

/-- One operation. Restoring with nothing remembered does nothing. -/
def step (c : Cursor) : Op → Cursor
  | .left n => c.shift 0 (-signed n)
  | .right n => c.shift 0 (signed n)
  | .up n => c.shift (-signed n) 0
  | .down n => c.shift (signed n) 0
  | .save => { c with saved := c.place :: c.saved }
  | .restore =>
    match c.saved with
    | [] => c
    | place :: rest => ⟨place, rest⟩
  | .highlight _ | .unhighlight _ => c.shift 0 1

/-- Operations in order. -/
def run (c : Cursor) (ops : List Op) : Cursor :=
  ops.foldl step c

theorem run_append (c : Cursor) (a b : List Op) : c.run (a ++ b) = (c.run a).run b :=
  List.foldl_append

/-- The cell of a cursor; negative coordinates count as zero. -/
def cell (c : Cursor) : Cell :=
  ⟨c.place.row.toNat, c.place.col.toNat⟩

end Cursor

/-- Where the operations leave a cursor that starts at a cell. Mirrors `replay`. -/
def landing (ops : List Op) (start : Cell) : Cell :=
  ((Cursor.start start).run ops).cell

end BracketCue.Terminal
