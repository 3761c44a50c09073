import BracketCue.Text.Numeral

/-!
# Which numerals are read

A decimal numeral is read from the left. The value only grows, so a value that fits in the end has
fitted all along, and it makes no difference that reading stops at the first fault.

* `readCountFrom_eq_ok_iff`, `readCount_eq_ok_iff`: a numeral is read as its value if all its
  characters are digits and the value fits a machine word.
* `exists_of_readCountFrom_eq_error`: the character at which reading stops.
-/
namespace BracketCue.Text

theorem le_ofDigitChars (n : Nat) (digits : Text) : n ≤ Nat.ofDigitChars 10 digits n := by
  induction digits generalizing n with
  | nil => exact Nat.le_refl n
  | cons c rest ih =>
    rw [Nat.ofDigitChars_cons]
    have := ih (10 * n + (c.toNat - '0'.toNat))
    omega

/-- Zeros in front and digits in any number do not matter, only the value does. -/
theorem readCountFrom_eq_ok_iff {digits : Text} {n count : Nat} (small : n ≤ largestCount) :
    readCountFrom n digits = .ok count ↔
      (∀ c ∈ digits, c.isDigit = true) ∧ Nat.ofDigitChars 10 digits n = count ∧
        count ≤ largestCount := by
  induction digits generalizing n with
  | nil =>
    rw [readCountFrom, Nat.ofDigitChars_nil, Except.ok.injEq]
    constructor
    · rintro rfl
      exact ⟨nofun, rfl, small⟩
    · exact fun h => h.2.1
  | cons c rest ih =>
    rw [readCountFrom, Nat.ofDigitChars_cons, List.forall_mem_cons]
    split
    · next digit =>
      dsimp only
      split
      · next fits => simp only [ih fits, digit, true_and]
      · next exceeds =>
        -- the value only grows from here
        have grows := le_ofDigitChars (10 * n + (c.toNat - '0'.toNat)) rest
        constructor
        · nofun
        · rintro ⟨-, rfl, fits⟩
          omega
    · next other =>
      constructor
      · nofun
      · exact fun h => absurd h.1.1 other

theorem readCount_eq_ok_iff {digits : Text} {count : Nat} :
    readCount digits = .ok count ↔
      (∀ c ∈ digits, c.isDigit = true) ∧ Nat.ofDigitChars 10 digits 0 = count ∧
        count ≤ largestCount :=
  readCountFrom_eq_ok_iff (Nat.zero_le _)

/-- A numeral that is not read has a first character at which reading it stops: one that is no digit
0 to 9, or the one with which the value exceeds what fits. -/
theorem exists_of_readCountFrom_eq_error {digits : Text} {n : Nat} {cause : NumeralError}
    (small : n ≤ largestCount) (h : readCountFrom n digits = .error cause) :
    ∃ before c after, digits = before ++ c :: after ∧ (∀ d ∈ before, d.isDigit = true) ∧
      Nat.ofDigitChars 10 before n ≤ largestCount ∧
      (cause = .invalidDigit ∧ c.isDigit = false ∨
        cause = .tooLarge ∧ c.isDigit = true ∧
          largestCount < Nat.ofDigitChars 10 (before ++ [c]) n) := by
  induction digits generalizing n with
  | nil => cases h
  | cons c rest ih =>
    rw [readCountFrom] at h
    split at h
    · next digit =>
      dsimp only at h
      split at h
      · next fits =>
        obtain ⟨before, d, after, rfl, decimal, value, fault⟩ := ih fits h
        rw [← Nat.ofDigitChars_cons] at value
        rw [← Nat.ofDigitChars_cons, ← List.cons_append] at fault
        exact ⟨c :: before, d, after, rfl, List.forall_mem_cons.2 ⟨digit, decimal⟩, value, fault⟩
      · next exceeds =>
        cases h
        have value : largestCount < Nat.ofDigitChars 10 ([] ++ [c]) n := Nat.lt_of_not_le exceeds
        exact ⟨[], c, rest, rfl, List.forall_mem_nil _, small, .inr ⟨rfl, digit, value⟩⟩
    · next other =>
      cases h
      exact ⟨[], c, rest, rfl, List.forall_mem_nil _, small, .inl ⟨rfl, Bool.eq_false_iff.2 other⟩⟩

end BracketCue.Text
