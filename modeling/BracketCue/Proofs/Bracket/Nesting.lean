import BracketCue.Proofs.Bracket.OnePass
import Mathlib.Data.List.TakeWhile

/-!
# Nesting

The pairs of one family in a text. Two of them are nested or lie apart, and a pair leaves no bracket
of its family over that stands inside it. The brackets that are left over in the whole text could
not be paired any further: they read as closers followed by openers.

All of it comes from two ways in which a bracket is sure to have a partner.

* `exists_closer`: an opener is closed before the height falls below what it has raised it to.
* `closed_or_all_closed`: a closer closes an opener, unless all openers before it are closed already.
* `Balances.within`, `Balances.exists_within`: what begins inside a pair ends inside it, and every
  bracket inside has a partner inside.
* `pairs_laminar_and_maximal`: the pairs that the search finds from all brackets of a family.
-/
namespace BracketCue

/-- The pair stands strictly inside the other one. -/
def Pair.Within (q p : Pair) : Prop :=
  p.opener < q.opener ∧ q.closer < p.closer

/-- The pair ends before the other one begins. -/
def Pair.Before (p q : Pair) : Prop :=
  p.closer < q.opener

/-- The search finds the pair from a bracket of the family. -/
def Found (text : Text) (k : Family) (p : Pair) : Prop :=
  ∃ o : Occurrence, o.bracket.family = k ∧ partner? text o = some p

/-- A bracket of the family that the text has and for which the search finds no partner. -/
structure LeftOver (text : Text) (k : Family) (o : Occurrence) : Prop where
  here : Occurrence.at? text o.offset = some o
  family_eq : o.bracket.family = k
  alone : partner? text o = none

/-! ## Brackets that are sure to have a partner -/

section
variable {k : Family} {text : Text} {n : Nat}

/-- Only a closer lowers the height. -/
theorem closer_of_fall (h : height k text (n + 1) < height k text n) :
    text[n]? = some k.closer := by
  cases hc : text[n]? with
  | none => simp [height, List.take_add_one, hc] at h
  | some c =>
    by_cases ho : c = k.opener
    · subst ho
      have := height_succ_opener hc
      omega
    · by_cases hk : c = k.closer
      · rw [hk]
      · have := height_succ_other hc ho hk
        omega

/-- An opener is closed before the height falls below what it has raised it to. -/
theorem exists_closer {i : Nat} (ho : text[i]? = some k.opener) (hi : i < n)
    (h : height k text n < height k text (i + 1)) :
    ∃ c hlt, c < n ∧ Balances text ⟨i, c, k, hlt⟩ := by
  induction n using Nat.strongRecOn with
  | ind n ih =>
    by_cases earlier : ∃ m, i < m ∧ m < n ∧ height k text m < height k text (i + 1)
    · obtain ⟨m, him, hmn, hm⟩ := earlier
      obtain ⟨c, hlt, hc, hb⟩ := ih m hmn him hm
      exact ⟨c, hlt, by omega, hb⟩
    · -- the height falls at the last step, so a closer stands there
      have above : ∀ m, i < m → m < n → height k text (i + 1) ≤ height k text m := by
        intro m him hmn
        by_cases hm : height k text m < height k text (i + 1)
        · exact absurd ⟨m, him, hmn, hm⟩ earlier
        · omega
      obtain ⟨c, rfl⟩ : ∃ c, n = c + 1 := ⟨n - 1, by omega⟩
      have hic : i < c := by
        rcases Nat.lt_or_ge i c with hlt | hge
        · exact hlt
        · rw [show i = c by omega] at h; omega
      have hc := closer_of_fall (show height k text (c + 1) < height k text c by
        have := above c hic (by omega); omega)
      have := height_succ_closer hc
      have := above c hic (by omega)
      refine ⟨c, hic, by omega, balances_iff.2 ⟨ho, hc, by dsimp only; omega, fun m him hmc => ?_⟩⟩
      dsimp only at him hmc
      exact above m him (by omega)

/-- A closer closes an opener, unless all openers before it are closed already. -/
theorem closed_or_all_closed {j : Nat} (hc : text[j]? = some k.closer) :
    (∃ i hlt, Balances text ⟨i, j, k, hlt⟩) ∨
      ∀ i, i < j → text[i]? = some k.opener → ∃ c hlt, c < j ∧ Balances text ⟨i, c, k, hlt⟩ := by
  have hk := (Tracks.run_take text j (Nat.le_of_lt (lt_length_of_get hc))).opened k
  cases hs : (Pass.run (text.take j)).opened k with
  | nil =>
    rw [hs] at hk
    right
    intro i hi ho
    obtain ⟨m, him, hmj, hm⟩ := hk i hi ho
    obtain ⟨c, hlt, hcm, hb⟩ := exists_closer ho him hm
    exact ⟨c, hlt, by omega, hb⟩
  | cons i outer =>
    rw [hs] at hk
    left
    obtain ⟨hlt, hb⟩ := hk.balances hc
    exact ⟨i, hlt, hb⟩

end

/-! ## Pairs of one family -/

section
variable {text : Text} {p q : Pair}

theorem Balances.closer_eq (hp : Balances text p) (hq : Balances text q)
    (h : p.opener = q.opener) : p.closer = q.closer :=
  congrArg Pair.closer (hp.eq_of_shared_end hq (.inl rfl) (.inl h))

/-- A pair that begins inside another one of its family ends inside it. -/
theorem Balances.within (hp : Balances text p) (hq : Balances text q) (hf : p.family = q.family)
    (h : p.opener < q.opener) (hin : q.opener < p.closer) : q.Within p := by
  refine ⟨h, ?_⟩
  obtain ⟨-, -, hp0, hp1⟩ := balances_iff.1 hp
  obtain ⟨ho, -, -, hq1⟩ := balances_iff.1 hq
  rw [hf] at hp0 hp1
  have := height_succ_opener ho
  have := hp1 q.opener h (by omega)
  rcases Nat.lt_or_ge q.closer p.closer with hlt | hge
  · exact hlt
  · have := hq1 p.closer hin hge; omega

/-- Two pairs of a family lie apart or are nested. -/
theorem Balances.apart_or_nested (hp : Balances text p) (hq : Balances text q)
    (hf : p.family = q.family) (hne : p ≠ q) :
    p.Before q ∨ q.Before p ∨ p.Within q ∨ q.Within p := by
  have ordered : ∀ {p q : Pair}, Balances text p → Balances text q → p.family = q.family →
      p.opener < q.opener → p.Before q ∨ q.Within p := by
    intro p q hp hq hf h
    rcases Nat.lt_trichotomy p.closer q.opener with hlt | heq | hgt
    · exact .inl hlt
    · exact absurd heq.symm (hq.opener_ne_closer hp)
    · exact .inr (hp.within hq hf h hgt)
  rcases Nat.lt_trichotomy p.opener q.opener with hlt | heq | hgt
  · rcases ordered hp hq hf hlt with h | h
    · exact .inl h
    · exact .inr (.inr (.inr h))
  · exact absurd (hp.eq_of_shared_end hq (.inl rfl) (.inl heq)) hne
  · rcases ordered hq hp hf.symm hgt with h | h
    · exact .inr (.inl h)
    · exact .inr (.inr (.inl h))

/-- Every bracket of the family inside a pair has a partner inside. -/
theorem Balances.exists_within (hp : Balances text p) {i : Nat} {side : Side}
    (hi : text[i]? = some (Bracket.toChar ⟨p.family, side⟩)) (ho : p.opener < i)
    (hc : i < p.closer) : ∃ q, q.family = p.family ∧ q.endOn side = i ∧ Balances text q ∧
      q.Within p := by
  cases side with
  | opening =>
    obtain ⟨-, -, hp0, hp1⟩ := balances_iff.1 hp
    have := height_succ_opener hi
    have := hp1 i ho (by omega)
    obtain ⟨c, hlt, hcp, hb⟩ := exists_closer hi hc (by omega)
    exact ⟨⟨i, c, p.family, hlt⟩, rfl, rfl, hb, ho, hcp⟩
  | closing =>
    rcases closed_or_all_closed hi with ⟨o, hlt, hb⟩ | closed
    · refine ⟨⟨o, i, p.family, hlt⟩, rfl, rfl, hb, ?_, hc⟩
      -- were its opener not inside, the pair would stand inside this one
      rcases Nat.lt_trichotomy p.opener o with h | h | h
      · exact h
      · have : p.closer = i := hp.closer_eq hb h
        omega
      · have : p.closer < i := (hb.within hp rfl h ho).2
        omega
    · obtain ⟨c, hlt, hci, hb⟩ := closed p.opener ho hp.opener_at
      have : p.closer = c := hp.closer_eq hb rfl
      omega

end

/-! ## What the search finds -/

section
variable {text : Text} {k : Family}

theorem Found.balances {p : Pair} (h : Found text k p) : Balances text p ∧ p.family = k := by
  obtain ⟨o, hk, hp⟩ := h
  have partner := partner?_eq_some_iff_isPartner.1 hp
  exact ⟨partner.balances, partner.family_eq.trans hk⟩

/-- No bracket that is left over stands at the end of a pair. -/
theorem LeftOver.not_balances {o : Occurrence} (h : LeftOver text k o) {p : Pair}
    (hb : Balances text p) : o.offset ≠ p.endOn o.bracket.side := by
  intro he
  have found := partner?_of_end h.here hb (Pair.exists_endOn_iff.1 ⟨_, he⟩)
  rw [h.alone] at found
  cases found

theorem LeftOver.get {o : Occurrence} (h : LeftOver text k o) :
    text[o.offset]? = some (Bracket.toChar ⟨k, o.bracket.side⟩) := by
  rw [(Occurrence.at?_eq_some_iff.1 h.here).2, ← h.family_eq]

/-- Among the brackets that are left over, closers stand before openers. -/
theorem LeftOver.closer_before {o o' : Occurrence} (h : LeftOver text k o)
    (h' : LeftOver text k o') (hs : o.bracket.side = .opening) (hs' : o'.bracket.side = .closing) :
    o'.offset < o.offset := by
  have ho := h.get
  have hc := h'.get
  rw [hs] at ho
  rw [hs'] at hc
  rcases Nat.lt_trichotomy o'.offset o.offset with hlt | heq | hgt
  · exact hlt
  · rw [heq, ho, Option.some.injEq] at hc
    exact absurd hc k.opener_ne_closer
  · rcases closed_or_all_closed hc with ⟨i, hlt, hb⟩ | closed
    · exact absurd (by rw [hs']; rfl) (h'.not_balances hb)
    · obtain ⟨c, hlt, -, hb⟩ := closed o.offset hgt ho
      exact absurd (by rw [hs]; rfl) (h.not_balances hb)

end

/-! ## What is left over, in order -/

def occurrences (text : Text) : List Occurrence :=
  (List.range text.length).filterMap (Occurrence.at? text)

/-- The brackets of the family for which the search finds no partner, in order. -/
def leftOvers (text : Text) (k : Family) : List Occurrence :=
  (occurrences text).filter fun o => o.bracket.family = k ∧ partner? text o = none

def Occurrence.isCloser (o : Occurrence) : Bool :=
  o.bracket.side = .closing

theorem Occurrence.isCloser_eq_false_iff {o : Occurrence} :
    o.isCloser = false ↔ o.bracket.side = .opening := by
  cases hs : o.bracket.side <;> simp [isCloser, hs]

theorem mem_occurrences_iff {text : Text} {o : Occurrence} :
    o ∈ occurrences text ↔ Occurrence.at? text o.offset = some o := by
  unfold occurrences
  rw [List.mem_filterMap]
  constructor
  · intro h
    obtain ⟨i, -, hi⟩ := h
    rw [(Occurrence.at?_eq_some_iff.1 hi).1]
    exact hi
  · intro h
    have hlt := lt_length_of_get (Occurrence.at?_eq_some_iff.1 h).2
    exact ⟨o.offset, List.mem_range.2 hlt, h⟩

theorem mem_leftOvers_iff {text : Text} {k : Family} {o : Occurrence} :
    o ∈ leftOvers text k ↔ LeftOver text k o := by
  unfold leftOvers
  rw [List.mem_filter, mem_occurrences_iff, decide_eq_true_eq]
  exact ⟨fun h => ⟨h.1, h.2.1, h.2.2⟩, fun h => ⟨h.here, h.family_eq, h.alone⟩⟩

theorem pairwise_leftOvers (text : Text) (k : Family) :
    (leftOvers text k).Pairwise fun o o' => o.offset < o'.offset := by
  refine List.Pairwise.filter _ (List.Pairwise.filterMap _ ?_ List.pairwise_lt_range)
  intro i j hij o ho o' ho'
  rw [(Occurrence.at?_eq_some_iff.1 ho).1, (Occurrence.at?_eq_some_iff.1 ho').1]
  exact hij

/-- Behind the closers that what is left over begins with, only openers are left over. -/
theorem opening_of_mem_dropWhile {text : Text} {k : Family} {o : Occurrence}
    (h : o ∈ (leftOvers text k).dropWhile Occurrence.isCloser) : o.bracket.side = .opening := by
  have sublist := List.dropWhile_sublist Occurrence.isCloser (l := leftOvers text k)
  have sorted := (pairwise_leftOvers text k).sublist sublist
  have alone : ∀ o ∈ (leftOvers text k).dropWhile Occurrence.isCloser, LeftOver text k o :=
    fun o ho => mem_leftOvers_iff.1 (sublist.mem ho)
  have first := List.head?_dropWhile_not Occurrence.isCloser (leftOvers text k)
  cases hd : (leftOvers text k).dropWhile Occurrence.isCloser with
  | nil =>
    rw [hd] at h
    cases h
  | cons x rest =>
    rw [hd] at h sorted alone first
    have hx : x.bracket.side = .opening := Occurrence.isCloser_eq_false_iff.1 first
    rcases List.mem_cons.1 h with rfl | hrest
    · exact hx
    · cases hs : o.bracket.side with
      | opening => rfl
      | closing =>
        -- a closer behind the first opener would stand before it
        have := (List.pairwise_cons.1 sorted).1 o hrest
        have := (alone x List.mem_cons_self).closer_before (alone o h) hx hs
        omega

/-- What is left over reads as closers followed by openers. -/
theorem leftOvers_eq_append (text : Text) (k : Family) :
    ∃ closers openers, leftOvers text k = closers ++ openers ∧
      (∀ o ∈ closers, o.bracket.side = .closing) ∧ ∀ o ∈ openers, o.bracket.side = .opening := by
  refine ⟨_, _, (List.takeWhile_append_dropWhile (p := Occurrence.isCloser)).symm, ?_, ?_⟩
  · intro o ho
    have closer : o.isCloser = true := List.mem_takeWhile_imp ho
    exact of_decide_eq_true closer
  · intro o ho
    exact opening_of_mem_dropWhile ho

/-- The pairs of a family that the search finds share no end, and two of them lie apart or are
nested. A bracket of the family inside a pair has its partner inside that pair too. The brackets
that have no partner could not be paired any further: each closer among them stands before each
opener, and in order they read as closers followed by openers. -/
theorem pairs_laminar_and_maximal (text : Text) (k : Family) :
    (∀ p q, Found text k p → Found text k q →
      ∀ i, (i = p.opener ∨ i = p.closer) → (i = q.opener ∨ i = q.closer) → p = q) ∧
    (∀ p q, Found text k p → Found text k q → p ≠ q →
      p.Before q ∨ q.Before p ∨ p.Within q ∨ q.Within p) ∧
    (∀ p, Found text k p → ∀ o : Occurrence, Occurrence.at? text o.offset = some o →
      o.bracket.family = k → p.opener < o.offset → o.offset < p.closer →
        ∃ q, partner? text o = some q ∧ q.Within p) ∧
    (∀ o o', LeftOver text k o → LeftOver text k o' →
      o.bracket.side = .opening → o'.bracket.side = .closing → o'.offset < o.offset) ∧
    (∃ closers openers, leftOvers text k = closers ++ openers ∧
      (∀ o ∈ closers, o.bracket.side = .closing) ∧ ∀ o ∈ openers, o.bracket.side = .opening) := by
  refine ⟨fun p q hp hq i hi hi' => ?_, fun p q hp hq hne => ?_, fun p hp o here hk ho hc => ?_,
    fun o o' h h' => h.closer_before h', leftOvers_eq_append text k⟩
  · exact hp.balances.1.eq_of_shared_end hq.balances.1 hi hi'
  · obtain ⟨hbp, hfp⟩ := hp.balances
    obtain ⟨hbq, hfq⟩ := hq.balances
    exact hbp.apart_or_nested hbq (hfp.trans hfq.symm) hne
  · obtain ⟨hb, hf⟩ := hp.balances
    have hget := (Occurrence.at?_eq_some_iff.1 here).2
    obtain ⟨offset, family, side⟩ := o
    dsimp only at hk ho hc hget
    subst hk
    rw [← hf] at hget
    obtain ⟨q, hqf, he, hbq, within⟩ := hb.exists_within hget ho hc
    refine ⟨q, ?_, within⟩
    rw [← hf, ← hqf, ← he]
    exact partner?_end hbq side

/-- A closer and two openers too many around two pairs and a bracket of another family. -/
theorem pairs_laminar_and_maximal_unbalanced :
    let text := ")((([))(".toList
    let outer : Pair := ⟨2, 6, .paren, by decide⟩
    let inner : Pair := ⟨3, 5, .paren, by decide⟩
    let opener : Occurrence := ⟨1, .paren, .opening⟩
    let closer : Occurrence := ⟨0, .paren, .closing⟩
    Found text .paren outer ∧ Found text .paren inner ∧ outer ≠ inner ∧
      (outer.Before inner ∨ inner.Before outer ∨ outer.Within inner ∨ inner.Within outer) ∧
      (∃ q, partner? text ⟨5, .paren, .closing⟩ = some q ∧ q.Within outer) ∧
      LeftOver text .paren opener ∧ LeftOver text .paren closer ∧ closer.offset < opener.offset := by
  intro text outer inner opener closer
  have houter : Found text .paren outer := ⟨⟨2, .paren, .opening⟩, rfl, by decide⟩
  have hinner : Found text .paren inner := ⟨⟨5, .paren, .closing⟩, rfl, by decide⟩
  have hne : outer ≠ inner := by decide
  have hopener : LeftOver text .paren opener := ⟨by decide, rfl, by decide⟩
  have hcloser : LeftOver text .paren closer := ⟨by decide, rfl, by decide⟩
  obtain ⟨-, nested, inside, order, -⟩ := pairs_laminar_and_maximal text .paren
  exact ⟨houter, hinner, hne, nested outer inner houter hinner hne,
    inside outer houter ⟨5, .paren, .closing⟩ (by decide) rfl (by decide) (by decide),
    hopener, hcloser, order opener closer hopener hcloser rfl rfl⟩

end BracketCue
