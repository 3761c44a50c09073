import BracketCue.Proofs.Highlight.Painted

/-!
# Looks

Whether two highlights look alike is asked of their pairs and, where only the partner is painted, of
their anchors; what is seen are the offsets that they paint. Within one text this comes to the same:
highlights that have a painted offset in common look alike, and so an offset belongs to one look
only. Between texts it does not, since a round pair of one text may stand where another text has a
square pair.

* `Highlight.Valid.looksLike_iff_common`: highlights of one text look alike if they meet at all.
* `looks_alike_or_apart`: what any two cursors call for paints the same, or nothing in common.
-/
namespace BracketCue

namespace Highlight

variable {text : Text} {h h' : Highlight} {paint : Paint}

theorem exists_mem_offsets (h : Highlight) (paint : Paint) : ∃ o, o ∈ h.offsets paint := by
  cases paint with
  | both => exact ⟨h.pair.opener, List.mem_cons_self⟩
  | partner => exact ⟨h.pair.opposite h.anchor, List.mem_cons_self⟩

/-- Highlights of one text look alike exactly if they have a painted offset in common. -/
theorem Valid.looksLike_iff_common (v : h.Valid text) (v' : h'.Valid text) :
    h.looksLike h' paint = true ↔ ∃ o ∈ h.offsets paint, o ∈ h'.offsets paint := by
  constructor
  · intro alike
    obtain ⟨o, ho⟩ := h.exists_mem_offsets paint
    exact ⟨o, ho, offsets_eq_of_looksLike alike ▸ ho⟩
  · intro common
    obtain ⟨o, ho, ho'⟩ := common
    cases differ : h.looksLike h' paint with
    | true => rfl
    | false => exact absurd ho' (v.not_mem_of_not_looksLike v' differ ho)

theorem Valid.looksLike_iff_offsets_eq (v : h.Valid text) (v' : h'.Valid text) :
    h.looksLike h' paint = true ↔ h.offsets paint = h'.offsets paint := by
  refine ⟨offsets_eq_of_looksLike, fun same => (v.looksLike_iff_common v').2 ?_⟩
  obtain ⟨o, ho⟩ := h.exists_mem_offsets paint
  exact ⟨o, ho, same ▸ ho⟩

end Highlight

/-- The highlights that two cursors of a text call for look alike exactly if they paint the same
offsets, and if they do not look alike they have no painted offset in common. Each cursor may select
its bracket in its own way. -/
theorem looks_alike_or_apart (text : Text) (choice choice' : ActiveBracket) (paint : Paint)
    (cursor cursor' : Nat) (active active' : Occurrence) (pair pair' : Pair)
    (found : activePair? text cursor choice = some (active, pair))
    (found' : activePair? text cursor' choice' = some (active', pair')) :
    let h : Highlight := ⟨pair, active.offset⟩
    let h' : Highlight := ⟨pair', active'.offset⟩
    (h.looksLike h' paint = true ↔ h.offsets paint = h'.offsets paint) ∧
      (h.looksLike h' paint = false → ∀ o ∈ h.offsets paint, o ∉ h'.offsets paint) := by
  intro h h'
  have v : h.Valid text := Highlight.valid_of_activePair? found
  have v' : h'.Valid text := Highlight.valid_of_activePair? found'
  exact ⟨v.looksLike_iff_offsets_eq v', fun differ _ => v.not_mem_of_not_looksLike v' differ⟩

/-- One pair from its two ends: alike if both ends are painted, apart if only the partner is. -/
theorem looks_alike_or_apart_two_ends :
    let text := "[(a])".toList
    let pair : Pair := ⟨1, 4, .paren, by decide⟩
    let first : Highlight := ⟨pair, 1⟩
    let last : Highlight := ⟨pair, 4⟩
    activePair? text 2 .leftThenUnder = some (⟨1, .paren, .opening⟩, pair) ∧
      activePair? text 4 .underCursor = some (⟨4, .paren, .closing⟩, pair) ∧
      first.looksLike last .both = true ∧ first.looksLike last .partner = false ∧
      first.offsets .both = last.offsets .both ∧
      ∀ o ∈ first.offsets .partner, o ∉ last.offsets .partner := by
  intro text pair first last
  have found : activePair? text 2 .leftThenUnder = some (⟨1, .paren, .opening⟩, pair) := by decide
  have found' : activePair? text 4 .underCursor = some (⟨4, .paren, .closing⟩, pair) := by decide
  have alike : first.looksLike last .both = true := by decide
  have differ : first.looksLike last .partner = false := by decide
  have looks := fun paint =>
    looks_alike_or_apart text .leftThenUnder .underCursor paint 2 4 _ _ _ _ found found'
  exact ⟨found, found', alike, differ, (looks .both).1.1 alike, (looks .partner).2 differ⟩

end BracketCue
