import BracketCue.Highlight.Indicator
import BracketCue.Proofs.Bracket.Balance

/-!
# What is painted

A highlight that a text calls for is a pair of the text anchored at one of its ends. Two such
highlights either look the same, and then they paint the same offsets, or they share no painted
offset at all: a bracket has only one partner, and of one pair the two anchors paint opposite ends.

* `Indicator.repaints_move`, `Indicator.repaints_clear`: what the indicator answers is either no
  change, the painted offsets staying as they are, or the old highlight erased and the new one
  drawn, the two having no offset in common.
-/
namespace BracketCue

/-- The highlight is that of a pair of the text, anchored at an end of it. -/
structure Highlight.Valid (text : Text) (h : Highlight) : Prop where
  balances : Balances text h.pair
  anchor_end : h.anchor = h.pair.opener ∨ h.anchor = h.pair.closer

/-- The offsets painted for what is highlighted, if anything is. -/
def painted (paint : Paint) (h : Option Highlight) : List Nat :=
  h.elim [] (·.offsets paint)

namespace Highlight

variable {text : Text} {h h' : Highlight} {paint : Paint} {o : Nat}

theorem Valid.mem_offsets (v : h.Valid text) (ho : o ∈ h.offsets paint) :
    o = h.pair.opener ∨ o = h.pair.closer := by
  cases paint with
  | both => simpa [offsets] using ho
  | partner =>
    simp only [offsets, List.mem_singleton] at ho
    subst ho
    rcases v.anchor_end with ha | ha <;> rw [ha]
    · exact .inr (Pair.opposite_opener _)
    · exact .inl (Pair.opposite_closer _)

theorem Valid.get_offsets (v : h.Valid text) (ho : o ∈ h.offsets paint) :
    ∃ c, text[o]? = some c := by
  rcases v.mem_offsets ho with rfl | rfl
  · exact ⟨_, v.balances.opener_at⟩
  · exact ⟨_, v.balances.closer_at⟩

theorem offsets_nodup (h : Highlight) (paint : Paint) : (h.offsets paint).Nodup := by
  cases paint with
  | both => simpa [offsets] using Nat.ne_of_lt h.pair.opener_lt_closer
  | partner => simp [offsets]

theorem offsets_eq_of_looksLike (hl : h.looksLike h' paint = true) :
    h.offsets paint = h'.offsets paint := by
  cases paint with
  | both =>
    have : h.pair = h'.pair := by simpa [looksLike] using hl
    simp [offsets, this]
  | partner =>
    have : h = h' := by simpa [looksLike] using hl
    rw [this]

/-- The offset painted for the partner is the end that is not the anchor. -/
theorem Valid.anchor_of_opposite_eq (v : h.Valid text) (v' : h'.Valid text)
    (hp : h.pair = h'.pair) (ho : h.pair.opposite h.anchor = h'.pair.opposite h'.anchor) :
    h.anchor = h'.anchor := by
  have hlt := h.pair.opener_lt_closer
  have a := v.anchor_end
  have a' := v'.anchor_end
  rw [← hp] at a' ho
  unfold Pair.opposite at ho
  split at ho <;> split at ho <;> omega

/-- What a cursor calls for is a highlight of the text. -/
theorem valid_of_activePair? {cursor : Nat} {choice : ActiveBracket} {active : Occurrence}
    {pair : Pair} (found : activePair? text cursor choice = some (active, pair)) :
    Valid text ⟨pair, active.offset⟩ := by
  simp only [activePair?, Option.bind_eq_bind, Option.bind_eq_some_iff, Option.pure_def,
    Option.some.injEq, Prod.mk.injEq] at found
  obtain ⟨_, -, _, hp, rfl, rfl⟩ := found
  have partner := partner?_eq_some_iff_isPartner.1 hp
  exact ⟨partner.balances, Pair.exists_endOn_iff.1 ⟨_, partner.offset_eq⟩⟩

/-- Highlights of one text that do not look the same paint no offset in common. -/
theorem Valid.not_mem_of_not_looksLike (v : h.Valid text) (v' : h'.Valid text)
    (hl : h.looksLike h' paint = false) (ho : o ∈ h.offsets paint) : o ∉ h'.offsets paint := by
  intro ho'
  have hp := v.balances.eq_of_shared_end v'.balances (v.mem_offsets ho) (v'.mem_offsets ho')
  cases paint with
  | both => simp [looksLike, hp] at hl
  | partner =>
    simp only [offsets, List.mem_singleton] at ho ho'
    have ha := v.anchor_of_opposite_eq v' hp (ho ▸ ho')
    have : h = h' := by cases h; cases h'; cases hp; cases ha; rfl
    simp [looksLike, this] at hl

end Highlight

/-- What is highlighted, if anything is, is a highlight of the text. -/
def ValidIn (text : Text) (h : Option Highlight) : Prop :=
  ∀ h', h = some h' → h'.Valid text

theorem ValidIn.lt_length {text : Text} {h : Option Highlight} (v : ValidIn text h) {paint : Paint}
    {o : Nat} (ho : o ∈ painted paint h) : o < text.length := by
  cases h with
  | none => cases ho
  | some h =>
    obtain ⟨c, hc⟩ := (v h rfl).get_offsets ho
    exact lt_length_of_get hc

/-- The change leads from one highlight to the next: either nothing need be done, or one is erased
and the other drawn, and no offset is touched twice. -/
inductive Repaints (paint : Paint) (before after : Option Highlight) : Change → Prop
  | keep (same : painted paint before = painted paint after) : Repaints paint before after .none
  | replace (apart : ∀ o ∈ painted paint before, o ∉ painted paint after) :
      Repaints paint before after ⟨before, after⟩

namespace Indicator

variable {text : Text} {cursor : Nat}

theorem validIn_wanted (i : Indicator) (text : Text) (cursor : Nat) :
    ValidIn text (i.wanted text cursor) := by
  intro h hw
  obtain ⟨⟨active, pair⟩, found, rfl⟩ := Option.map_eq_some_iff.1 hw
  exact Highlight.valid_of_activePair? found

theorem painted_eq_of_sameLook {paint : Paint} {before after : Option Highlight}
    (h : sameLook paint before after = true) : painted paint before = painted paint after := by
  cases before <;> cases after
  · rfl
  · cases h
  · cases h
  · exact Highlight.offsets_eq_of_looksLike h

theorem repaints_of_not_sameLook {paint : Paint} {before after : Option Highlight}
    (vb : ValidIn text before) (va : ValidIn text after) (h : sameLook paint before after = false) :
    Repaints paint before after ⟨before, after⟩ := by
  refine .replace fun o ho => ?_
  cases before with
  | none => cases ho
  | some b =>
    cases after with
    | none => simp [painted]
    | some a => exact (vb b rfl).not_mem_of_not_looksLike (va a rfl) h ho

theorem repaints_clear (i : Indicator) :
    Repaints i.paint i.current i.clear.1.current i.clear.2 :=
  .replace fun _ _ => by simp [clear, painted]

theorem repaints_move (i : Indicator) (v : ValidIn text i.current) (h : cursor ≤ text.length) :
    Repaints i.paint i.current (i.move text cursor h).1.current (i.move text cursor h).2 := by
  by_cases on : i.enabled = true
  · simp only [move, on, if_true]
    split
    · next hl => exact .keep (painted_eq_of_sameLook hl)
    · next hl =>
      exact repaints_of_not_sameLook v (i.validIn_wanted text cursor) (Bool.eq_false_iff.2 hl)
  · simp only [move, on]
    exact i.repaints_clear

theorem validIn_move (i : Indicator) (h : cursor ≤ text.length) :
    ValidIn text (i.move text cursor h).1.current := by
  rw [current_move]
  split
  · exact i.validIn_wanted text cursor
  · intro _ hn; cases hn

end Indicator
end BracketCue
