import BracketCue.Screen.Travel
import BracketCue.Terminal.Cursor
import Mathlib.Algebra.Group.Int.Defs
import Mathlib.Algebra.Group.Nat.Defs

/-!
# Cells as places

A cursor holds its coordinates in signed machine words. On a line that fits one, prompt and text
together, a cell is read as the row and the column that it has. On a line that fits an unsigned word
only, it is read modulo `2 ^ 64`, and still no two offsets of a text are read as the same place.

* `Fits.small`: on a line that fits every coordinate does.
* `Screen.place_inj`: as long as the offsets of the line do not start again at zero, the cells of a
  text, its end included, are places of their own.
-/
namespace BracketCue

open Terminal

/-! ## Machine words -/

theorem wrapped_eq_bmod (n : Int) : wrapped n = n.bmod (2 ^ 64) :=
  rfl

/-- A number that fits is kept as it is. -/
theorem wrapped_of_natAbs_lt {n : Int} (h : n.natAbs < 2 ^ 63) : wrapped n = n := by
  rw [wrapped_eq_bmod, Int.bmod_eq_of_le] <;> omega

theorem signed_eq_bmod (n : Nat) : signed n = (n : Int).bmod (2 ^ 64) :=
  rfl

/-- Below `2 ^ 63` the reading is the number itself. -/
theorem signed_of_lt {n : Nat} (h : n < 2 ^ 63) : signed n = n := by
  rw [signed, wrapped_of_natAbs_lt (by omega)]

theorem bmod_signed (n : Nat) : (signed n).bmod (2 ^ 64) = signed n := by
  rw [signed_eq_bmod]
  exact Int.bmod_bmod

theorem bmod_eq_iff_dvd {x y : Int} :
    x.bmod (2 ^ 64) = y.bmod (2 ^ 64) ↔ (2 ^ 64 : Int) ∣ x - y := by
  rw [Int.bmod_eq_bmod_iff_bmod_sub_eq_zero, ← Int.dvd_iff_bmod_eq_zero]
  norm_cast

theorem wrapped_sub_dvd (n : Int) : (2 ^ 64 : Int) ∣ wrapped n - n := by
  rw [← bmod_eq_iff_dvd, wrapped_eq_bmod, Int.bmod_bmod]

theorem signed_sub_dvd (n : Nat) : (2 ^ 64 : Int) ∣ signed n - n :=
  wrapped_sub_dvd n

theorem dvd_of_signed_eq {m n : Nat} (h : signed m = signed n) : (2 ^ 64 : Int) ∣ m - n := by
  rwa [signed_eq_bmod, signed_eq_bmod, bmod_eq_iff_dvd] at h

/-! ## Places -/

/-- Below `2 ^ 64` the prompt and the offset simply add up. -/
theorem Screen.lineOffset_of_lt {s : Screen} {o : Nat} (h : s.promptWidth + o < 2 ^ 64) :
    s.lineOffset o = s.promptWidth + o :=
  Nat.mod_eq_of_lt h

/-- Offsets of the displayed line fit a signed machine word. -/
def Screen.Fits (s : Screen) (text : Text) : Prop :=
  s.promptWidth + text.length < 2 ^ 63

instance (s : Screen) (text : Text) : Decidable (s.Fits text) :=
  inferInstanceAs (Decidable (_ < _))

/-- A cell as a cursor holds it. -/
def Cell.place (c : Cell) : Place :=
  ⟨signed c.row, signed c.col⟩

/-- Both coordinates fit a signed machine word. -/
def Cell.Small (c : Cell) : Prop :=
  c.row < 2 ^ 63 ∧ c.col < 2 ^ 63

theorem Cell.Small.place_eq {c : Cell} (h : c.Small) : c.place = ⟨c.row, c.col⟩ := by
  rw [Cell.place, signed_of_lt h.1, signed_of_lt h.2]

/-- Between cells whose coordinates fit, the way is the difference of these. -/
theorem Cell.Small.travelTo_eq {a b : Cell} (ha : a.Small) (hb : b.Small) :
    a.travelTo b = ⟨(b.row : Int) - a.row, (b.col : Int) - a.col⟩ := by
  obtain ⟨rowA, colA⟩ := ha
  obtain ⟨rowB, colB⟩ := hb
  rw [travelTo, signed_of_lt rowA, signed_of_lt rowB, signed_of_lt colA, signed_of_lt colB,
    wrapped_of_natAbs_lt (by omega), wrapped_of_natAbs_lt (by omega)]

theorem Screen.Fits.short {s : Screen} {text : Text} (h : s.Fits text) :
    s.promptWidth + text.length < 2 ^ 64 := by
  simp only [Fits] at h; omega

theorem Screen.Fits.small {s : Screen} {text : Text} (h : s.Fits text) (o : Nat) :
    (s.cellOf text.length o).Small := by
  have hle : min (s.lineOffset o) (s.lineOffset text.length) < 2 ^ 63 := by
    rw [Screen.lineOffset_of_lt h.short]
    exact Nat.lt_of_le_of_lt (Nat.min_le_right _ _) h
  exact ⟨Nat.lt_of_le_of_lt (Nat.div_le_self _ _) hle, Nat.lt_of_le_of_lt (Nat.mod_le _ _) hle⟩

/-- A place held in machine words. -/
def Terminal.Place.wrap (p : Place) : Place :=
  ⟨p.row.bmod (2 ^ 64), p.col.bmod (2 ^ 64)⟩

theorem Terminal.Place.wrap_eq_iff {p q : Place} :
    p.wrap = q.wrap ↔ (2 ^ 64 : Int) ∣ p.row - q.row ∧ (2 ^ 64 : Int) ∣ p.col - q.col := by
  rw [wrap, wrap, Place.mk.injEq, bmod_eq_iff_dvd, bmod_eq_iff_dvd]

theorem Cell.wrap_place (c : Cell) : c.place.wrap = c.place := by
  rw [Place.wrap, Cell.place, bmod_signed, bmod_signed]

theorem Cell.wrap_eq_place_iff {c : Cell} {p : Place} :
    p.wrap = c.place ↔
      (2 ^ 64 : Int) ∣ p.row - signed c.row ∧ (2 ^ 64 : Int) ∣ p.col - signed c.col := by
  rw [← c.wrap_place, Place.wrap_eq_iff, Cell.place]

/-- Places of a line whose offsets fit a word are held apart. -/
theorem Columns.eq_of_place_eq (w : Columns) {length m n : Nat} (hle : m ≤ n) (hn : n ≤ length)
    (short : length < 2 ^ 64) (h : (w.cellAt length m).place = (w.cellAt length n).place) :
    m = n := by
  simp only [cellAt, Nat.min_eq_left hn, Nat.min_eq_left (Nat.le_trans hle hn), Cell.place,
    Place.mk.injEq] at h
  have hrow := dvd_of_signed_eq h.1
  have hcol := dvd_of_signed_eq h.2
  have hm := Nat.div_add_mod m w.count
  have hn' := Nat.div_add_mod n w.count
  have hlt := Nat.mod_lt m w.count_pos
  have hrows : m / w.count ≤ n / w.count := Nat.div_le_div_right hle
  rcases Nat.eq_or_lt_of_le hrows with he | hlt'
  · rw [he] at hm
    omega
  · -- whole words of rows lie between them, and each row is one column wide at least
    have hfar : w.count * (2 ^ 64 + m / w.count) ≤ w.count * (n / w.count) :=
      Nat.mul_le_mul_left _ (by omega)
    have hpos := w.count_pos
    rw [Nat.mul_add] at hfar
    omega

theorem Screen.place_inj {s : Screen} {length o o' : Nat} (short : s.promptWidth + length < 2 ^ 64)
    (h : o ≤ length) (h' : o' ≤ length) :
    (s.cellOf length o).place = (s.cellOf length o').place ↔ o = o' := by
  refine ⟨fun he => ?_, fun he => he ▸ rfl⟩
  have inLine : ∀ n, n ≤ length → s.lineOffset n = s.promptWidth + n := fun n hn =>
    Screen.lineOffset_of_lt (by omega)
  rw [cellOf, cellOf, inLine o h, inLine o' h', inLine length (Nat.le_refl _)] at he
  rcases Nat.le_total o o' with hle | hle
  · have := s.columns.eq_of_place_eq (Nat.add_le_add_left hle s.promptWidth)
      (Nat.add_le_add_left h' s.promptWidth) short he
    omega
  · have := s.columns.eq_of_place_eq (Nat.add_le_add_left hle s.promptWidth)
      (Nat.add_le_add_left h s.promptWidth) short he.symm
    omega

end BracketCue
