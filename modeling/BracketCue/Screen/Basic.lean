import BracketCue.Fault

/-!
# Screens and cells

A line longer than the screen is wide continues on the next row. The prompt stands in front of the
text and takes part in the wrapping, so the text's offset `o` is shown at offset
`promptWidth + o` of the displayed line. The sum is one of machine words: from `2 ^ 64` on it starts
again at zero.

* `cellAt_col_lt`: every cell lies within the columns.
* `cellAt_eq_iff`: the rows times the width plus the column give the offset back, so two offsets
  of a line never share a cell.
-/
namespace BracketCue

/-- A row and a column, both counted from zero at the start of the displayed line.
Mirrors `RowCol`. -/
structure Cell where
  row : Nat
  col : Nat
  deriving DecidableEq, Repr

/-- The number of columns of a screen, at least one. -/
structure Columns where
  count : Nat
  count_pos : 0 < count
  deriving DecidableEq, Repr

namespace Columns

/-- A number of columns, which must not be zero. -/
def ofNat (count : Nat) : Except Fault Columns :=
  if h : 0 < count then .ok ⟨count, h⟩ else .error .zeroWidth

/-- The cell of an offset of a displayed line. An offset beyond the line stands for its end.
Mirrors `row_col`. -/
def cellAt (w : Columns) (lineLength offset : Nat) : Cell :=
  let place := min offset lineLength
  ⟨place / w.count, place % w.count⟩

theorem cellAt_col_lt (w : Columns) (lineLength offset : Nat) :
    (w.cellAt lineLength offset).col < w.count :=
  Nat.mod_lt _ w.count_pos

theorem cellAt_eq_iff (w : Columns) {lineLength offset : Nat} (h : offset ≤ lineLength)
    (c : Cell) :
    w.cellAt lineLength offset = c ↔ c.col < w.count ∧ w.count * c.row + c.col = offset := by
  obtain ⟨row, col⟩ := c
  simp only [cellAt, Nat.min_eq_left h, Cell.mk.injEq]
  constructor
  · rintro ⟨rfl, rfl⟩
    exact ⟨Nat.mod_lt _ w.count_pos, Nat.div_add_mod _ _⟩
  · rintro ⟨hcol, rfl⟩
    rw [Nat.mul_add_div w.count_pos, Nat.mul_add_mod, Nat.div_eq_of_lt hcol, Nat.mod_eq_of_lt hcol]
    exact ⟨Nat.add_zero _, rfl⟩

end Columns

/-- The geometry of an edited line: the display width of the prompt and the screen's columns. -/
structure Screen where
  promptWidth : Nat
  columns : Columns
  deriving DecidableEq, Repr

namespace Screen

/-- The place in the displayed line of an offset of the text. Mirrors `absolute`. -/
def lineOffset (s : Screen) (offset : Nat) : Nat :=
  (s.promptWidth + offset) % UInt64.size

def cellOf (s : Screen) (length offset : Nat) : Cell :=
  s.columns.cellAt (s.lineOffset length) (s.lineOffset offset)

end Screen
end BracketCue
