import BracketCue.Proofs.Machine.Word
import BracketCue.Proofs.Terminal.Form
import BracketCue.Proofs.Terminal.Frame

/-!
# Travel in machine words

The way between two cells is computed in signed words, from coordinates that are unsigned ones, and
the moves of the way have unsigned counts again. For offsets that fit a signed word none of it ever
leaves the words, however narrow the screen is: a coordinate is never larger than its offset, and the
largest difference of two such numbers can still be negated.

* `travel_eq_ok`, `moves_eq_ok`: the computation in machine words is the exact one.
* `Columns.travel_eq`: between cells of offsets that fit, the way is the difference of coordinates.
* `Columns.lt_iff_before`: offsets are ordered as their cells are, by the row and then by the column.
* `Columns.landing_travel`: the moves lead from the one cell to the other.
* `travel_round_trip`: all of it together.
-/
namespace BracketCue

open Terminal

/-! ## The computation in machine words -/

namespace Machine

def difference (target start : Nat) : Except Trap Int := do
  let target ← signedWord target
  let start ← signedWord start
  signedWord (target - start)

def travel (start target : Cell) : Except Trap Travel := do
  let rows ← difference target.row start.row
  let cols ← difference target.col start.col
  return ⟨rows, cols⟩

/-- The move by a signed distance: one way if it is positive, the other way if it is negative. -/
def move (forth back : Nat → Op) (distance : Int) : Except Trap (List Op) :=
  if 0 < distance then do
    let count ← unsigned distance
    return [forth count]
  else if distance < 0 then do
    let opposite ← signedWord (-distance)
    let count ← unsigned opposite
    return [back count]
  else .ok []

def moves (way : Travel) : Except Trap (List Op) := do
  let rows ← move .down .up way.rows
  let cols ← move .right .left way.cols
  return rows ++ cols

theorem difference_eq_ok {target start : Nat} (ht : target < 2 ^ 63) (hs : start < 2 ^ 63) :
    difference target start = .ok (target - start : Int) := by
  rw [difference, signedWord_of_lt (by omega) (by omega), ok_bind,
    signedWord_of_lt (by omega) (by omega), ok_bind, signedWord_of_lt (by omega) (by omega)]

theorem travel_eq_ok {start target : Cell} (hs : start.Small) (ht : target.Small) :
    travel start target = .ok (start.travelTo target) := by
  rw [travel, difference_eq_ok ht.1 hs.1, ok_bind, difference_eq_ok ht.2 hs.2, ok_bind,
    hs.travelTo_eq ht]
  rfl

theorem move_eq_ok (forth back : Nat → Op) {distance : Int} (small : distance.natAbs < 2 ^ 63) :
    move forth back distance =
      .ok (if 0 < distance then [forth distance.toNat]
        else if distance < 0 then [back (-distance).toNat] else []) := by
  rw [move]
  split
  · rw [unsigned_of_eq (m := distance.toNat) (by omega) (by omega)]
    rfl
  · split
    · rw [signedWord_of_lt (by omega) (by omega), ok_bind,
        unsigned_of_eq (m := (-distance).toNat) (by omega) (by omega)]
      rfl
    · rfl

theorem moves_eq_ok {way : Travel} (hrows : way.rows.natAbs < 2 ^ 63)
    (hcols : way.cols.natAbs < 2 ^ 63) : moves way = .ok (Terminal.moves way) := by
  rw [moves, move_eq_ok _ _ hrows, ok_bind, move_eq_ok _ _ hcols]
  rfl

end Machine

/-! ## Offsets and their cells -/

namespace Columns

variable (w : Columns) {a b : Nat}

theorem small_cellAt (ha : a < 2 ^ 63) : (w.cellAt a a).Small := by
  have := Nat.div_le_self a w.count
  have := Nat.mod_le a w.count
  simp only [cellAt, Nat.min_self, Cell.Small]
  omega

/-- The row and the column give the offset back. -/
theorem offset_eq (a : Nat) : w.count * (w.cellAt a a).row + (w.cellAt a a).col = a :=
  ((w.cellAt_eq_iff (Nat.le_refl a) _).1 rfl).2

/-- The way between the cells of offsets that fit is the difference of their coordinates. -/
theorem travel_eq (ha : a < 2 ^ 63) (hb : b < 2 ^ 63) :
    w.travel a b =
      ⟨(w.cellAt b b).row - (w.cellAt a a).row, (w.cellAt b b).col - (w.cellAt a a).col⟩ := by
  rw [travel, (w.small_cellAt ha).travelTo_eq (w.small_cellAt hb)]

/-- The rows times the width plus the columns are the distance of the offsets. -/
theorem rows_mul_add_cols (ha : a < 2 ^ 63) (hb : b < 2 ^ 63) :
    (w.travel a b).rows * w.count + (w.travel a b).cols = (b : Int) - a := by
  have hoa : (w.count : Int) * (w.cellAt a a).row + (w.cellAt a a).col = a :=
    mod_cast w.offset_eq a
  have hob : (w.count : Int) * (w.cellAt b b).row + (w.cellAt b b).col = b :=
    mod_cast w.offset_eq b
  rw [w.travel_eq ha hb, Int.sub_mul, Int.mul_comm _ (w.count : Int), Int.mul_comm _ (w.count : Int)]
  dsimp only
  omega

theorem natAbs_cols_lt (ha : a < 2 ^ 63) (hb : b < 2 ^ 63) :
    (w.travel a b).cols.natAbs < w.count := by
  have := w.cellAt_col_lt a a
  have := w.cellAt_col_lt b b
  rw [w.travel_eq ha hb]
  dsimp only
  omega

/-- Offsets are ordered as their cells are, by the row and then by the column. -/
theorem lt_iff_before :
    a < b ↔ (w.cellAt a a).row < (w.cellAt b b).row ∨
      (w.cellAt a a).row = (w.cellAt b b).row ∧ (w.cellAt a a).col < (w.cellAt b b).col := by
  have hoa := w.offset_eq a
  have hob := w.offset_eq b
  have hca := w.cellAt_col_lt a a
  have hcb := w.cellAt_col_lt b b
  generalize w.cellAt a a = s at *
  generalize w.cellAt b b = t at *
  -- one row further down is the whole width further on
  have further : ∀ {x y : Nat}, x < y → w.count * x + w.count ≤ w.count * y := by
    intro x y h
    rw [← Nat.mul_succ]
    exact Nat.mul_le_mul_left _ h
  rcases Nat.lt_trichotomy s.row t.row with h | h | h
  · have := further h
    omega
  · rw [h] at hoa
    omega
  · have := further h
    omega

theorem cellAt_inj : w.cellAt a a = w.cellAt b b ↔ a = b := by
  constructor
  · intro h
    rw [← w.offset_eq a, h, w.offset_eq b]
  · intro h
    rw [h]

/-- The moves of the way lead from the one cell to the other. -/
theorem landing_travel (ha : a < 2 ^ 63) (hb : b < 2 ^ 63) :
    landing (moves (w.travel a b)) (w.cellAt a a) = w.cellAt b b := by
  have hs := w.small_cellAt ha
  have ht := w.small_cellAt hb
  obtain ⟨rows, cols, run, wentRows, wentCols⟩ :=
    run_approach .relative (w.cellAt a a) (w.cellAt b b) (Cursor.start (w.cellAt a a))
  rw [signed_of_lt ht.1, signed_of_lt hs.1] at wentRows
  rw [signed_of_lt ht.2, signed_of_lt hs.2] at wentCols
  have hrows := wentRows.exact (by have := hs.1; have := ht.1; omega)
  have hcols := wentCols.exact (by have := hs.2; have := ht.2; omega)
  change ((Cursor.start (w.cellAt a a)).run
    (MoveStyle.approach .relative (w.cellAt a a) (w.cellAt b b))).cell = w.cellAt b b
  rw [run, hrows, hcols, Cursor.shift, Cursor.start, Cursor.cell, signed_of_lt hs.1,
    signed_of_lt hs.2]
  have arrived : ∀ x y : Nat, ((x : Int) + (y - x)).toNat = y := by omega
  dsimp only
  rw [arrived, arrived]

end Columns

/-- The way between the cells of two offsets that fit a signed word, on a screen of any width. It
takes one from the one offset to the other, and by less than a row along the row; it is computed in
machine words without leaving them; it takes one move for the rows and then one for the columns at
most, none by zero; and the moves lead from the one cell to the other. The cells are in order, by the
row and then by the column, exactly if the offsets are, and so are never shared. -/
theorem travel_round_trip (w : Columns) {a b : Nat} (ha : a < 2 ^ 63) (hb : b < 2 ^ 63) :
    let start := w.cellAt a a
    let target := w.cellAt b b
    let way := w.travel a b
    way.rows * w.count + way.cols = (b : Int) - a ∧
      way.cols.natAbs < w.count ∧
      Machine.travel start target = .ok way ∧
      Machine.moves way = .ok (moves way) ∧
      Direct (moves way) ∧
      landing (moves way) start = target ∧
      (a < b ↔ start.row < target.row ∨ start.row = target.row ∧ start.col < target.col) ∧
      (start = target ↔ a = b) := by
  intro start target way
  have hs : start.Small := w.small_cellAt ha
  have ht : target.Small := w.small_cellAt hb
  have coordinates : way = ⟨target.row - start.row, target.col - start.col⟩ := w.travel_eq ha hb
  have exact_moves : Machine.moves way = .ok (moves way) := by
    obtain ⟨hs1, hs2⟩ := hs
    obtain ⟨ht1, ht2⟩ := ht
    apply Machine.moves_eq_ok
    · rw [coordinates]
      dsimp only
      omega
    · rw [coordinates]
      dsimp only
      omega
  exact ⟨w.rows_mul_add_cols ha hb, w.natAbs_cols_lt ha hb, Machine.travel_eq_ok hs ht, exact_moves,
    direct_moves way, w.landing_travel ha hb, w.lt_iff_before, w.cellAt_inj⟩

/-- Two columns, and a way to the last offsets of all: down, and back along the row. -/
theorem travel_round_trip_far :
    let w : Columns := ⟨2, by decide⟩
    let last : Nat := 9223372036854775806
    1 < 2 ^ 63 ∧ last < 2 ^ 63 ∧
      (w.travel 1 last).rows = 4611686018427387903 ∧ (w.travel 1 last).cols = -1 ∧
      (w.travel 1 last).rows * w.count + (w.travel 1 last).cols = (last : Int) - (1 : Nat) ∧
      Machine.travel (w.cellAt 1 1) (w.cellAt last last) = .ok (w.travel 1 last) ∧
      Machine.moves (w.travel 1 last) = .ok (moves (w.travel 1 last)) ∧
      landing (moves (w.travel 1 last)) (w.cellAt 1 1) = w.cellAt last last := by
  intro w last
  have small : 1 < 2 ^ 63 := by omega
  have fits : last < 2 ^ 63 := by omega
  obtain ⟨distance, -, way, moves, -, arrives, -⟩ := travel_round_trip w small fits
  exact ⟨small, fits, by decide, by decide, distance, way, moves, arrives⟩

end BracketCue
