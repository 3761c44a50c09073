import BracketCue.Highlight.Basic
import BracketCue.Screen.Travel
import BracketCue.Terminal.Op

/-!
# The painter

Turns one move of the cursor and the change of the highlight it causes into terminal operations.

The operations begin with the echo, the way of the cursor itself. Each cell to be repainted then
has a block of its own: the cursor is saved, goes to the cell, writes its character, steps back
over it, and is restored. So every block starts and ends where the cursor is. A move of zero rows
or columns is never written, since a terminal would take it for a move of one.
-/
namespace BracketCue

/-- How a block reaches its cell. -/
inductive MoveStyle
  /-- By the net number of rows and columns. -/
  | relative
  /-- By the rows, then to the left edge, then to the column. -/
  | lineStart
  deriving DecidableEq, Repr

namespace Terminal

def vertical (rows : Int) : List Op :=
  if 0 < rows then [.down rows.toNat] else if rows < 0 then [.up (-rows).toNat] else []

def horizontal (cols : Int) : List Op :=
  if 0 < cols then [.right cols.toNat] else if cols < 0 then [.left (-cols).toNat] else []

/-- The moves of a way: first the rows, then the columns. Mirrors `push_moves`. -/
def moves (way : Travel) : List Op :=
  vertical way.rows ++ horizontal way.cols

/-- The moves to the left edge and from there to a column. -/
def viaLeftEdge (startCol targetCol : Nat) : List Op :=
  (if startCol = 0 then [] else [.left startCol]) ++
    (if targetCol = 0 then [] else [.right targetCol])

end Terminal

open Terminal

/-- The moves from one cell to another. Mirrors `relocate`. -/
def MoveStyle.approach (style : MoveStyle) (start target : Cell) : List Op :=
  match style with
  | .relative => moves (start.travelTo target)
  | .lineStart =>
    vertical (start.travelTo target).rows ++ viaLeftEdge start.col target.col

/-- What is painted and how the cells are reached. Mirrors `Emitter`. -/
structure Painter where
  paint : Paint
  moveStyle : MoveStyle
  deriving DecidableEq, Repr

namespace Painter

/-- Goes from `anchor` to `target`, does the edit there and comes back. -/
def block (p : Painter) (anchor target : Cell) (edit : Op) : List Op :=
  .save :: p.moveStyle.approach anchor target ++ [edit, .left 1, .restore]

/-- The blocks that repaint the cells of a highlight. A cell that the text no longer has is passed
over. -/
def blocks (p : Painter) (screen : Screen) (text : Text) (anchor : Cell) (edit : Char → Op)
    (highlight : Highlight) : List Op :=
  (highlight.offsets p.paint).flatMap fun offset =>
    match text[offset]? with
    | none => []
    | some c => p.block anchor (screen.cellOf text.length offset) (edit c)

/-- The operations for a move of the cursor between two offsets of the text: the echo, then what is
erased, then what is drawn. Mirrors `emit`. -/
def ops (p : Painter) (screen : Screen) (text : Text) (change : Change) (before after : Nat) :
    List Op :=
  let anchor := screen.cellOf text.length after
  moves ((screen.cellOf text.length before).travelTo anchor) ++
    change.erased.elim [] (p.blocks screen text anchor .unhighlight) ++
    change.drawn.elim [] (p.blocks screen text anchor .highlight)

end Painter
end BracketCue
