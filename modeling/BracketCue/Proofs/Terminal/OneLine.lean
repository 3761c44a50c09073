import BracketCue.Terminal.Spelling

/-!
# Operations stay on one line

Operations by name are shown on a line of their own, whatever characters they write: no numeral and
no quoted character has a newline in it.

* `Text.newline_not_mem_quotedBy`: quotation leaves no newline.
* `Terminal.newline_not_mem_spell`: nor does spelling operations.
* `Text.lines_flatMap`: texts without newlines that are shown one by one are read back as lines.
-/
namespace BracketCue

namespace Text

theorem newline_not_mem_toDigits {base : Nat} (h : 1 < base) (n : Nat) :
    '\n' ∉ Nat.toDigits base n := by
  induction n using Nat.base_induction base h with
  | single m small =>
    rw [Nat.toDigits_of_lt_base small]
    exact mt List.mem_singleton.1 (Nat.digitChar_ne '\n' (by decide)).symm
  | digit m k small pos ih =>
    rw [← Nat.toDigits_append_toDigits h pos small, List.mem_append, not_or,
      Nat.toDigits_of_lt_base small]
    exact ⟨ih, mt List.mem_singleton.1 (Nat.digitChar_ne '\n' (by decide)).symm⟩

theorem newline_not_mem_quotedChar (mark c : Char) : '\n' ∉ quotedChar mark c := by
  unfold quotedChar
  split
  · decide
  · decide
  · decide
  · decide
  · decide
  · rename_i _ _ newline _ _
    split
    · simp [Ne.symm newline]
    split
    · have digits : '\n' ∉ hexadecimal c.toNat := newline_not_mem_toDigits (by decide) _
      simp [codePointEscape, digits]
    · simp [Ne.symm newline]

theorem newline_not_mem_quotedBy {mark : Char} (h : mark ≠ '\n') (text : Text) :
    '\n' ∉ quotedBy mark text := by
  have inner : '\n' ∉ text.flatMap (quotedChar mark) := by
    rw [List.mem_flatMap]
    rintro ⟨c, -, hc⟩
    exact newline_not_mem_quotedChar mark c hc
  simp [quotedBy, inner, h.symm]

theorem not_mem_join {c : Char} {mark : Text} (h : c ∉ mark) :
    ∀ {texts : List Text}, (∀ t ∈ texts, c ∉ t) → c ∉ join mark texts
  | [], _ => by simp [join]
  | [t], ht => by simpa [join] using ht
  | t :: u :: rest, ht => by
    have later : c ∉ join mark (u :: rest) :=
      not_mem_join h fun t' mem => ht t' (List.mem_cons_of_mem _ mem)
    simp [join, h, later, ht t List.mem_cons_self]

/-- Texts without newlines, each ended by one, are the lines of what they make together. The empty
line after the last newline is counted too. -/
theorem lines_flatMap {α : Type} (f : α → Text) {items : List α} (h : ∀ x ∈ items, '\n' ∉ f x) :
    lines (items.flatMap fun x => f x ++ ['\n']) = items.map f ++ [[]] := by
  induction items with
  | nil => rfl
  | cons x rest ih =>
    rw [List.forall_mem_cons] at h
    have first : ∀ c ∈ f x, (c == '\n') = false := fun c mem =>
      beq_eq_false_iff_ne.2 fun newline => h.1 (newline ▸ mem)
    rw [List.flatMap_cons, List.append_assoc, List.singleton_append, lines,
      List.splitOnP_append_cons_of_forall_mem first '\n' rfl]
    exact congrArg (f x :: ·) (ih h.2)

end Text

namespace Terminal

theorem Op.newline_not_mem_spell (o : Op) : '\n' ∉ o.spell := by
  have call : ∀ {name argument : Text}, '\n' ∉ name → '\n' ∉ argument →
      '\n' ∉ call name argument := by
    intro name argument hname hargument
    simp [Terminal.call, hname, hargument]
  have count : ∀ n, '\n' ∉ Text.decimal n := fun n => Text.newline_not_mem_toDigits (by decide) n
  have quoted : ∀ c, '\n' ∉ Text.quotedSingle c := fun c =>
    Text.newline_not_mem_quotedBy (by decide) [c]
  cases o with
  | left n | right n | up n | down n => exact call (by decide) (count n)
  | save | restore => decide
  | highlight c | unhighlight c => exact call (by decide) (quoted c)

theorem newline_not_mem_spell (ops : List Op) : '\n' ∉ spell ops := by
  refine Text.not_mem_join (by decide) fun text mem => ?_
  obtain ⟨o, -, rfl⟩ := List.mem_map.1 mem
  exact o.newline_not_mem_spell

end Terminal
end BracketCue
