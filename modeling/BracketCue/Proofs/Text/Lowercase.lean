import BracketCue.Text.Lowercase
import Mathlib.Tactic.ByContra

/-!
# Which characters have ASCII small letters

Two characters beyond ASCII have small letters in ASCII: the sign of the kelvin, a k, and the
capital I with a dot, an i that takes its dot along. So a text whose small letters are all in ASCII,
with no k among them, is itself in ASCII, and there small letters are what they are for ASCII alone.

* `lowerAscii_eq_append_iff`: what is no letter stays as it is.
* `isAscii_of_lowerChar`: where a small letter of ASCII comes from.
* `lowercase_eq_iff`: which texts have small letters in ASCII.
-/
namespace BracketCue.Text

def IsAscii (c : Char) : Prop :=
  c.toNat < 128

instance (c : Char) : Decidable (IsAscii c) :=
  inferInstanceAs (Decidable (_ < _))

theorem forall_ascii {P : Char → Prop} (h : ∀ n < 128, P (Char.ofNat n)) {c : Char}
    (ascii : IsAscii c) : P c := by
  rw [← c.ofNat_toNat]
  exact h c.toNat ascii

/-! ## Small letters in ASCII -/

theorem toLower_of_not_ascii {c : Char} (h : ¬IsAscii c) : c.toLower = c := by
  have beyond : ¬(c.val ≥ 'A'.val ∧ c.val ≤ 'Z'.val) := by
    rintro ⟨-, le⟩
    have : c.toNat ≤ 90 := UInt32.le_iff_toNat_le.1 le
    exact h (by unfold IsAscii; omega)
  exact dif_neg beyond

theorem isAscii_toLower_iff {c : Char} : IsAscii c.toLower ↔ IsAscii c := by
  constructor
  · intro h
    by_contra beyond
    rw [toLower_of_not_ascii beyond] at h
    exact beyond h
  · exact forall_ascii (P := fun c => IsAscii c.toLower) (by decide)

/-- What is no letter is the small letter of itself alone. -/
theorem toLower_eq_iff {c d : Char} (hd : d.isAlpha = false) : c.toLower = d ↔ c = d := by
  have of_ascii : ∀ {c}, IsAscii c →
      (c.isAlpha = false ∨ c.toLower.isAlpha = false → c.toLower = c) :=
    forall_ascii (P := fun c => c.isAlpha = false ∨ c.toLower.isAlpha = false → c.toLower = c)
      (by decide)
  have same : c.isAlpha = false ∨ c.toLower.isAlpha = false → c.toLower = c := by
    by_cases ascii : IsAscii c
    · exact of_ascii ascii
    · exact fun _ => toLower_of_not_ascii ascii
  constructor
  · rintro rfl
    exact (same (.inr hd)).symm
  · rintro rfl
    exact same (.inl hd)

theorem lowerAscii_eq_iff {text t : Text} (h : ∀ d ∈ t, d.isAlpha = false) :
    lowerAscii text = t ↔ text = t := by
  induction t generalizing text with
  | nil => exact List.map_eq_nil_iff
  | cons d t ih =>
    obtain ⟨hd, ht⟩ := List.forall_mem_cons.1 h
    cases text with
    | nil => simp [lowerAscii]
    | cons c rest =>
      have tail := @ih rest ht
      simp only [lowerAscii, List.map_cons, List.cons.injEq, toLower_eq_iff hd] at tail ⊢
      rw [tail]

/-- What stands after a part without letters is found unchanged. -/
theorem lowerAscii_eq_append_iff {text s t : Text} (h : ∀ d ∈ t, d.isAlpha = false) :
    lowerAscii text = s ++ t ↔ ∃ name, text = name ++ t ∧ lowerAscii name = s := by
  rw [lowerAscii, List.map_eq_append_iff]
  constructor
  · rintro ⟨name, rest, rfl, hs, ht⟩
    rw [(lowerAscii_eq_iff h).1 ht]
    exact ⟨name, rfl, hs⟩
  · rintro ⟨name, rfl, hs⟩
    exact ⟨name, t, rfl, hs, (lowerAscii_eq_iff h).2 rfl⟩

/-! ## Small letters of all scripts -/

theorem smallLetter_cases (ranges : List CapitalRange) (n : Nat) :
    smallLetter ranges n = n ∨ ∃ first last step small, (first, last, step, small) ∈ ranges ∧
      first ≤ n ∧ n ≤ last ∧ smallLetter ranges n = small + (n - first) := by
  induction ranges with
  | nil => exact .inl rfl
  | cons range rest ih =>
    obtain ⟨first, last, step, small⟩ := range
    simp only [smallLetter]
    split
    · exact .inl rfl
    split
    · next found =>
      exact .inr ⟨first, last, step, small, List.mem_cons_self, by omega, found.1, rfl⟩
    · rcases ih with same | ⟨first, last, step, small, mem, within⟩
      · exact .inl same
      · exact .inr ⟨first, last, step, small, List.mem_cons_of_mem _ mem, within⟩

/-- Apart from the capitals of ASCII and the sign of the kelvin no capital has a small letter in
ASCII, and all small letters are characters. -/
theorem small_of_mem_capitalRanges : ∀ range ∈ capitalRanges,
    let (first, last, _, small) := range
    first ≤ 0x5a ∧ last = 0x5a ∨ first = 0x212a ∧ last = 0x212a ∧ small = 0x6b ∨
      128 ≤ small ∧
        (small + (last - first) < 0xd800 ∨ 0xdfff < small ∧ small + (last - first) < 0x110000) := by
  decide +kernel

theorem lowerChar_of_ascii {c : Char} (h : IsAscii c) : lowerChar c = [c.toLower] :=
  forall_ascii (P := fun c => lowerChar c = [c.toLower]) (by decide) h

/-- A character is one of ASCII if its small letter is, and is no k. -/
theorem isAscii_of_lowerChar {c : Char} (h : ∀ d ∈ lowerChar c, IsAscii d ∧ d ≠ 'k') :
    IsAscii c := by
  unfold lowerChar at h
  split at h
  · exact absurd (h '\u0307' (by simp)).1 (by decide)
  obtain ⟨ascii, notK⟩ := h _ (List.mem_singleton_self _)
  rcases smallLetter_cases capitalRanges c.toNat with same | found
  · rwa [same, Char.ofNat_toNat] at ascii
  obtain ⟨first, last, step, small, mem, le, ge, value⟩ := found
  rcases small_of_mem_capitalRanges _ mem with capital | kelvin | ⟨beyond, valid⟩
  · unfold IsAscii
    omega
  · obtain ⟨rfl, rfl, rfl⟩ := kelvin
    have one : c.toNat = 0x212a := Nat.le_antisymm ge le
    rw [value, one] at notK
    exact absurd rfl notK
  · have character : Nat.isValidChar (small + (c.toNat - first)) := by
      unfold Nat.isValidChar
      omega
    rw [value, Char.ofNat, dif_pos character] at ascii
    have : small + (c.toNat - first) < 128 := ascii
    omega

/-! ## Texts -/

theorem lowercase_of_ascii {text : Text} (h : ∀ c ∈ text, IsAscii c) :
    lowercase text = lowerAscii text := by
  induction text with
  | nil => rfl
  | cons c rest ih =>
    obtain ⟨hc, hrest⟩ := List.forall_mem_cons.1 h
    rw [lowercase, List.flatMap_cons, lowerChar_of_ascii hc]
    exact congrArg (c.toLower :: ·) (ih hrest)

theorem isAscii_of_lowerAscii {text : Text} (h : ∀ d ∈ lowerAscii text, IsAscii d) :
    ∀ c ∈ text, IsAscii c := fun _ hc =>
  isAscii_toLower_iff.1 (h _ (List.mem_map_of_mem hc))

/-- An ASCII text without a k is the small letters of a text exactly if it is so for the letters of
ASCII alone. -/
theorem lowercase_eq_iff {text t : Text} (h : ∀ d ∈ t, IsAscii d ∧ d ≠ 'k') :
    lowercase text = t ↔ lowerAscii text = t := by
  constructor
  · rintro rfl
    refine (lowercase_of_ascii fun c hc => isAscii_of_lowerChar fun d hd => ?_).symm
    exact h d (List.mem_flatMap.2 ⟨c, hc, hd⟩)
  · rintro rfl
    exact lowercase_of_ascii (isAscii_of_lowerAscii fun d hd => (h d hd).1)

end BracketCue.Text
