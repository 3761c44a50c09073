import BracketCue.Proofs.Text.Words
import BracketCue.Text.Numeral
import Mathlib.Algebra.Group.Nat.Defs

/-!
# Padded numerals

A numeral that is padded with zeros is read as the number it was written for. Padded to one width,
numerals of numbers that fit it are ordered as texts as the numbers are, so texts in which such
numerals stand one after the other are ordered by the first number in which they differ.

* `numerals_zeroPadded`, `numerals_signedDecimal`: a numeral is read back, of an integer without its
  sign.
* `length_zeroPadded_decimal`: the width is kept by what fits it.
* `zeroPadded_append_lt_iff`: texts that begin with numerals of one width are ordered by the numbers
  first.
-/
namespace BracketCue.Text

/-- The numbers of the maximal runs of digits in a text. -/
def numerals (text : Text) : List Nat :=
  (words (fun c => !c.isDigit) text).map (Nat.ofDigitChars 10 · 0)

/-! ## Reading -/

theorem numerals_append_cons {c : Char} (h : c.isDigit = false) (a b : Text) :
    numerals (a ++ c :: b) = numerals a ++ numerals b := by
  rw [numerals, words_append_cons (by rw [h]; rfl), List.map_append]
  rfl

theorem numerals_cons {c : Char} (h : c.isDigit = false) (text : Text) :
    numerals (c :: text) = numerals text :=
  numerals_append_cons h [] text

theorem numerals_of_digits {digits : Text} (ne : digits ≠ []) (h : ∀ c ∈ digits, c.isDigit = true) :
    numerals digits = [Nat.ofDigitChars 10 digits 0] := by
  rw [numerals, words_eq_singleton ne fun c hc => by rw [h c hc]; rfl, List.map_singleton]

variable {width n n' : Nat}

theorem isDigit_of_mem_zeroPadded {c : Char} (h : c ∈ zeroPadded width (decimal n)) :
    c.isDigit = true := by
  rcases List.mem_append.1 h with zero | digit
  · rw [List.eq_of_mem_replicate zero]
    rfl
  · exact Nat.isDigit_of_mem_toDigits (by decide) (by decide) digit

theorem zeroPadded_ne_nil (width n : Nat) : zeroPadded width (decimal n) ≠ [] :=
  List.append_ne_nil_of_right_ne_nil _ Nat.toDigits_ne_nil

theorem ofDigitChars_zeroPadded (width n : Nat) :
    Nat.ofDigitChars 10 (zeroPadded width (decimal n)) 0 = n := by
  rw [zeroPadded, Nat.ofDigitChars_append, Nat.ofDigitChars_replicate_zero, Nat.mul_zero, decimal,
    Nat.ofDigitChars_ten_toDigits]

theorem numerals_zeroPadded (width n : Nat) : numerals (zeroPadded width (decimal n)) = [n] := by
  rw [numerals_of_digits (zeroPadded_ne_nil width n) fun _ => isDigit_of_mem_zeroPadded,
    ofDigitChars_zeroPadded]

theorem numerals_signedDecimal (width : Nat) (n : Int) :
    numerals (signedDecimal width n) = [n.natAbs] := by
  cases n with
  | ofNat n => exact numerals_zeroPadded width n
  | negSucc n => exact (numerals_cons rfl _).trans (numerals_zeroPadded (width - 1) (n + 1))

theorem signedDecimal_ne_nil (width : Nat) (n : Int) : signedDecimal width n ≠ [] := by
  cases n with
  | ofNat n => exact zeroPadded_ne_nil width n
  | negSucc n => exact List.cons_ne_nil _ _

/-- The sign stands in front of the zeros. -/
theorem head?_signedDecimal (width : Nat) (n : Int) :
    (signedDecimal width n).head? = some '-' ↔ n < 0 := by
  cases n with
  | ofNat n =>
    constructor
    · intro sign
      have digit := isDigit_of_mem_zeroPadded (List.mem_of_mem_head? sign)
      exact absurd digit (by decide)
    · exact fun h => absurd h (Int.not_lt.2 (Int.natCast_nonneg n))
  | negSucc n => exact ⟨fun _ => Int.negSucc_lt_zero n, fun _ => rfl⟩

/-! ## Order -/

theorem length_zeroPadded_decimal (pos : 0 < width) (h : n < 10 ^ width) :
    (zeroPadded width (decimal n)).length = width := by
  have fits : (decimal n).length ≤ width := (Nat.length_toDigits_le_iff (by decide) pos).2 h
  rw [zeroPadded, List.length_append, List.length_replicate, Nat.sub_add_cancel fits]

/-- Texts are ordered by their first parts, if these have the same length, and then by the rest. -/
theorem append_lt_append_iff {a a' b b' : Text} (h : a.length = a'.length) :
    a ++ b < a' ++ b' ↔ a < a' ∨ a = a' ∧ b < b' := by
  induction a generalizing a' with
  | nil =>
    obtain rfl := List.length_eq_zero_iff.1 h.symm
    simp
  | cons c a ih =>
    obtain ⟨c', a', rfl⟩ := List.exists_cons_of_length_eq_add_one h.symm
    simp only [List.cons_append, List.cons_lt_cons_iff, List.cons.injEq,
      ih (Nat.succ.inj h), and_or_left, and_assoc, or_assoc]

/-- A digit more decides between values that did not differ so far. -/
theorem digit_lt_iff {c c' : Char} (digit : c.isDigit = true) (digit' : c'.isDigit = true)
    (n n' : Nat) :
    10 * n + (c.toNat - '0'.toNat) < 10 * n' + (c'.toNat - '0'.toNat) ↔
      n < n' ∨ n = n' ∧ c < c' := by
  have order : c < c' ↔ c.toNat < c'.toNat := Char.lt_def.trans UInt32.lt_iff_toNat_lt
  have range := Char.isDigit_iff_toNat.1 digit
  have range' := Char.isDigit_iff_toNat.1 digit'
  rw [order]
  simp only [show '0'.toNat = 48 from rfl, show '9'.toNat = 57 from rfl] at *
  omega

theorem digit_eq_iff {c c' : Char} (digit : c.isDigit = true) (digit' : c'.isDigit = true)
    (n n' : Nat) :
    10 * n + (c.toNat - '0'.toNat) = 10 * n' + (c'.toNat - '0'.toNat) ↔ n = n' ∧ c = c' := by
  have range := Char.isDigit_iff_toNat.1 digit
  have range' := Char.isDigit_iff_toNat.1 digit'
  rw [← Char.toNat_inj]
  simp only [show '0'.toNat = 48 from rfl, show '9'.toNat = 57 from rfl] at *
  omega

/-- Of digits in the same number the values are ordered as the texts, if the values read in front of
them do not differ. -/
theorem ofDigitChars_lt_iff {digits digits' : Text} (decimal : ∀ c ∈ digits, c.isDigit = true)
    (decimal' : ∀ c ∈ digits', c.isDigit = true) (same : digits.length = digits'.length)
    (n n' : Nat) :
    Nat.ofDigitChars 10 digits n < Nat.ofDigitChars 10 digits' n' ↔
      n < n' ∨ n = n' ∧ digits < digits' := by
  induction digits generalizing digits' n n' with
  | nil =>
    obtain rfl := List.length_eq_zero_iff.1 same.symm
    simp
  | cons c rest ih =>
    obtain ⟨c', rest', rfl⟩ := List.exists_cons_of_length_eq_add_one same.symm
    obtain ⟨digit, decimal⟩ := List.forall_mem_cons.1 decimal
    obtain ⟨digit', decimal'⟩ := List.forall_mem_cons.1 decimal'
    rw [Nat.ofDigitChars_cons, Nat.ofDigitChars_cons, ih decimal decimal' (Nat.succ.inj same),
      digit_lt_iff digit digit', digit_eq_iff digit digit', List.cons_lt_cons_iff]
    simp only [and_or_left, and_assoc, or_assoc]

theorem zeroPadded_lt_iff (pos : 0 < width) (h : n < 10 ^ width) (h' : n' < 10 ^ width) :
    zeroPadded width (decimal n) < zeroPadded width (decimal n') ↔ n < n' := by
  have digits : ∀ m, ∀ c ∈ zeroPadded width (decimal m), c.isDigit = true := fun _ _ =>
    isDigit_of_mem_zeroPadded
  have same := (length_zeroPadded_decimal pos h).trans (length_zeroPadded_decimal pos h').symm
  have values := ofDigitChars_lt_iff (digits n) (digits n') same 0 0
  rw [ofDigitChars_zeroPadded, ofDigitChars_zeroPadded] at values
  simpa using values.symm

theorem zeroPadded_inj (width n n' : Nat) :
    zeroPadded width (decimal n) = zeroPadded width (decimal n') ↔ n = n' := by
  refine ⟨fun same => ?_, fun same => same ▸ rfl⟩
  rw [← ofDigitChars_zeroPadded width n, same, ofDigitChars_zeroPadded]

theorem zeroPadded_append_lt_iff (pos : 0 < width) (h : n < 10 ^ width) (h' : n' < 10 ^ width)
    {rest rest' : Text} :
    zeroPadded width (decimal n) ++ rest < zeroPadded width (decimal n') ++ rest' ↔
      n < n' ∨ n = n' ∧ rest < rest' := by
  have same := (length_zeroPadded_decimal pos h).trans (length_zeroPadded_decimal pos h').symm
  rw [append_lt_append_iff same, zeroPadded_lt_iff pos h h', zeroPadded_inj]

end BracketCue.Text
