import BracketCue.Proofs.Bracket.Balance

/-!
# Matching in one pass

The usual way to match brackets: one pass over the text from left to right, with a stack of
openers for each family. An opener is pushed, a closer is paired with the opener on top of the
stack of its family, and a closer that finds its stack empty is ignored.

The pass and the search for a single partner share no step, yet they agree.

* `Tracks.step`: after a prefix the stacks hold the openers not closed yet, and the pairs found
  are all the pairs that close in the prefix.
* `mem_found_iff_partner?`: the pairs of the whole pass are those that the searches from the
  brackets of the text find, from either end.
-/
namespace BracketCue

/-- A pass on its way: for each family the openers not closed yet, innermost first, and the pairs
found so far as opener, closer and family. -/
structure Pass where
  opened : Family → List Nat
  found : List (Nat × Nat × Family)

namespace Pass

def start : Pass :=
  ⟨fun _ => [], []⟩

def withOpened (s : Pass) (k : Family) (stack : List Nat) : Pass :=
  { s with opened := fun f => if f = k then stack else s.opened f }

def step (s : Pass) (offset : Nat) (c : Char) : Pass :=
  match Bracket.ofChar? c with
  | none => s
  | some ⟨k, .opening⟩ => s.withOpened k (offset :: s.opened k)
  | some ⟨k, .closing⟩ =>
    match s.opened k with
    | [] => s
    | opener :: outer => { s.withOpened k outer with found := (opener, offset, k) :: s.found }

def run (text : Text) : Pass :=
  text.zipIdx.foldl (fun s (c, offset) => s.step offset c) start

theorem run_concat (text : Text) (c : Char) :
    run (text ++ [c]) = (run text).step text.length c := by
  simp [run, List.zipIdx_append]

end Pass

/-! ## What the stacks hold -/

/-- The stack lists, innermost first, the openers before `n` that nothing before `n` has closed:
between neighbours, and between the top and `n`, the text is balanced, and every opener below the
last has been closed. -/
def StillOpen (k : Family) (text : Text) : Nat → List Nat → Prop
  | n, [] => ∀ i, i < n → text[i]? = some k.opener →
      ∃ m, i < m ∧ m ≤ n ∧ height k text m < height k text (i + 1)
  | n, i :: outer => i < n ∧ text[i]? = some k.opener ∧ height k text n = height k text (i + 1) ∧
      (∀ m, i < m → m ≤ n → height k text (i + 1) ≤ height k text m) ∧ StillOpen k text i outer

namespace StillOpen

variable {k : Family} {text : Text} {n : Nat} {stack outer : List Nat}

theorem skip (hn : text[n]? ≠ some k.opener) (hh : height k text (n + 1) = height k text n)
    (h : StillOpen k text n stack) : StillOpen k text (n + 1) stack := by
  cases stack with
  | nil =>
    intro i hi ho
    have hin : i ≠ n := fun e => hn (e ▸ ho)
    obtain ⟨m, h1, h2, h3⟩ := h i (by omega) ho
    exact ⟨m, h1, by omega, h3⟩
  | cons i outer =>
    obtain ⟨hi, ho, h0, hm, hr⟩ := h
    refine ⟨by omega, ho, by omega, fun m h1 h2 => ?_, hr⟩
    rcases Nat.lt_or_ge n m with hlt | hge
    · rw [show m = n + 1 by omega]; omega
    · exact hm m h1 hge

theorem push (hn : text[n]? = some k.opener) (h : StillOpen k text n stack) :
    StillOpen k text (n + 1) (n :: stack) := by
  refine ⟨by omega, hn, rfl, fun m h1 h2 => ?_, h⟩
  obtain rfl : m = n + 1 := by omega
  exact Int.le_refl _

/-- An opener above the top of the stack has been closed before `n`. -/
theorem closed_above {i j : Nat} (h : StillOpen k text n (i :: outer)) (hij : i < j) (hj : j < n)
    (ho : text[j]? = some k.opener) : height k text n < height k text (j + 1) := by
  obtain ⟨-, -, h0, hm, -⟩ := h
  have := hm j hij (by omega)
  rw [height_succ_opener ho]; omega

theorem pop {i : Nat} (hn : text[n]? = some k.closer) (h : StillOpen k text n (i :: outer)) :
    StillOpen k text (n + 1) outer := by
  have hfall := height_succ_closer hn
  have habove := fun j => closed_above (j := j) h
  obtain ⟨hi, ho, h0, hm, hr⟩ := h
  have hrise := height_succ_opener ho
  cases outer with
  | nil =>
    intro j hj hjo
    rcases Nat.lt_trichotomy j i with hlt | rfl | hgt
    · obtain ⟨m, h1, h2, h3⟩ := hr j hlt hjo
      exact ⟨m, h1, by omega, h3⟩
    · exact ⟨n + 1, by omega, Nat.le_refl _, by omega⟩
    · have hjn : j ≠ n := by
        intro e
        subst e
        rw [hn, Option.some.injEq] at hjo
        exact k.opener_ne_closer hjo.symm
      exact ⟨n, by omega, by omega, habove j hgt (by omega) hjo⟩
  | cons j outer =>
    obtain ⟨hj, hjo, hj0, hjm, hjr⟩ := hr
    refine ⟨by omega, hjo, by omega, fun m h1 h2 => ?_, hjr⟩
    rcases Nat.lt_or_ge i m with hlt | hge
    · rcases Nat.lt_or_ge n m with hlt' | hge'
      · rw [show m = n + 1 by omega]; omega
      · have := hm m hlt hge'; omega
    · exact hjm m h1 hge

theorem ignore (hn : text[n]? = some k.closer) (h : StillOpen k text n []) :
    StillOpen k text (n + 1) [] := by
  intro i hi ho
  have hin : i ≠ n := by
    intro e
    subst e
    rw [hn, Option.some.injEq] at ho
    exact k.opener_ne_closer ho.symm
  obtain ⟨m, h1, h2, h3⟩ := h i (by omega) ho
  exact ⟨m, h1, by omega, h3⟩

/-- A closer balances the opener on top of the stack. -/
theorem balances {i : Nat} (hn : text[n]? = some k.closer) (h : StillOpen k text n (i :: outer)) :
    ∃ hlt, Balances text ⟨i, n, k, hlt⟩ := by
  obtain ⟨hi, ho, h0, hm, -⟩ := h
  exact ⟨hi, balances_iff.2 ⟨ho, hn, h0, hm⟩⟩

/-- A closer that finds the stack empty closes nothing. -/
theorem not_balances {o : Nat} {hlt : o < n} (h : StillOpen k text n []) :
    ¬Balances text ⟨o, n, k, hlt⟩ := by
  intro hb
  obtain ⟨ho, -, -, hm⟩ := balances_iff.1 hb
  obtain ⟨m, h1, h2, h3⟩ := h o hlt ho
  have := hm m h1 h2
  dsimp only at this; omega

end StillOpen

/-! ## The pass -/

/-- What a pass knows after the first `n` characters of a text. -/
structure Tracks (text : Text) (n : Nat) (s : Pass) : Prop where
  opened : ∀ k, StillOpen k text n (s.opened k)
  found : ∀ o c k, (o, c, k) ∈ s.found ↔ c < n ∧ ∃ hlt, Balances text ⟨o, c, k, hlt⟩

namespace Tracks

variable {text : Text} {n : Nat} {s : Pass}

theorem start (text : Text) : Tracks text 0 .start where
  opened _ _ hi := absurd hi (Nat.not_lt_zero _)
  found o c k := by simp [Pass.start]

/-- The pairs found need no change if no pair closes at `n`. -/
theorem found_succ (h : Tracks text n s)
    (hn : ∀ o k hlt, ¬Balances text ⟨o, n, k, hlt⟩) (o c : Nat) (k : Family) :
    (o, c, k) ∈ s.found ↔ c < n + 1 ∧ ∃ hlt, Balances text ⟨o, c, k, hlt⟩ := by
  rw [h.found]
  refine ⟨fun ⟨hc, hb⟩ => ⟨by omega, hb⟩, fun ⟨hc, hlt, hb⟩ => ⟨?_, hlt, hb⟩⟩
  have hcn : c ≠ n := by intro e; subst e; exact hn o k hlt hb
  omega

theorem skip_family {b : Bracket} (hc : text[n]? = some b.toChar) {f : Family}
    (hf : f ≠ b.family) (h : Tracks text n s) : StillOpen f text (n + 1) (s.opened f) := by
  have hne : ∀ side, b.toChar ≠ Bracket.toChar ⟨f, side⟩ := fun side e =>
    hf (congrArg Bracket.family (Bracket.toChar_injective e)).symm
  refine (h.opened f).skip ?_ (height_succ_other hc (hne .opening) (hne .closing))
  rw [hc, ne_eq, Option.some.injEq]
  exact hne .opening

theorem withOpened {b : Bracket} (hc : text[n]? = some b.toChar) (h : Tracks text n s)
    {stack : List Nat} (hs : StillOpen b.family text (n + 1) stack) (f : Family) :
    StillOpen f text (n + 1) ((s.withOpened b.family stack).opened f) := by
  simp only [Pass.withOpened]
  split
  · next hf => rw [hf]; exact hs
  · next hf => exact skip_family hc hf h

theorem step_none {c : Char} (hc : text[n]? = some c) (hb : Bracket.ofChar? c = none)
    (h : Tracks text n s) : Tracks text (n + 1) s := by
  have hne : ∀ b : Bracket, c ≠ b.toChar := by
    intro b e
    subst e
    rw [Bracket.ofChar?_toChar] at hb
    cases hb
  refine ⟨fun k => (h.opened k).skip ?_ (height_succ_other hc (hne _) (hne _)), h.found_succ ?_⟩
  · rw [hc, ne_eq, Option.some.injEq]
    exact hne _
  · intro o k hlt hbal
    have := hbal.closer_at
    rw [hc, Option.some.injEq] at this
    exact hne _ this

theorem step_opening {k : Family} (hc : text[n]? = some k.opener) (h : Tracks text n s) :
    Tracks text (n + 1) (s.withOpened k (n :: s.opened k)) := by
  refine ⟨withOpened (b := ⟨k, .opening⟩) hc h ((h.opened k).push hc), h.found_succ ?_⟩
  intro o f hlt hbal
  have := hbal.closer_at
  rw [hc, Option.some.injEq] at this
  cases congrArg Bracket.side (Bracket.toChar_injective this)

theorem step_closing {k : Family} (hc : text[n]? = some k.closer) (h : Tracks text n s) :
    Tracks text (n + 1) (s.step n k.closer) := by
  have family : ∀ {o f hlt}, Balances text ⟨o, n, f, hlt⟩ → f = k := by
    intro o f hlt hbal
    have := hbal.closer_at
    rw [hc, Option.some.injEq] at this
    exact (congrArg Bracket.family (Bracket.toChar_injective this)).symm
  have hk := h.opened k
  simp only [Pass.step, Family.closer, Bracket.ofChar?_toChar]
  split
  · next hs =>
    rw [hs] at hk
    refine ⟨fun f => ?_, h.found_succ ?_⟩
    · by_cases hf : f = k
      · rw [hf, hs]; exact hk.ignore hc
      · exact skip_family (b := ⟨k, .closing⟩) hc hf h
    · intro o f hlt hbal
      cases family hbal
      exact hk.not_balances hbal
  · next opener outer hs =>
    rw [hs] at hk
    obtain ⟨hlt, hbal⟩ := hk.balances hc
    refine ⟨withOpened (b := ⟨k, .closing⟩) hc h (hk.pop hc), fun o c f => ?_⟩
    simp only [List.mem_cons, Prod.mk.injEq, h.found]
    refine ⟨?_, ?_⟩
    · intro hyp
      obtain ⟨rfl, rfl, rfl⟩ | ⟨hcn, hb⟩ := hyp
      · exact ⟨by omega, hlt, hbal⟩
      · exact ⟨by omega, hb⟩
    · intro hyp
      obtain ⟨hcn, hlt', hbal'⟩ := hyp
      by_cases hcn' : c = n
      · subst hcn'
        have := hbal'.eq_of_shared_end hbal (.inr rfl) (.inr rfl)
        simp only [Pair.mk.injEq] at this
        exact .inl ⟨this.1, rfl, this.2.2⟩
      · exact .inr ⟨by omega, hlt', hbal'⟩

theorem step {c : Char} (hc : text[n]? = some c) (h : Tracks text n s) :
    Tracks text (n + 1) (s.step n c) := by
  cases hb : Bracket.ofChar? c with
  | none =>
    have : s.step n c = s := by simp only [Pass.step, hb]
    rw [this]; exact step_none hc hb h
  | some b =>
    obtain ⟨k, side⟩ := b
    rw [Bracket.ofChar?_eq_some_iff.1 hb] at hc
    cases side with
    | opening =>
      have : s.step n c = s.withOpened k (n :: s.opened k) := by simp only [Pass.step, hb]
      rw [this]; exact step_opening hc h
    | closing => rw [Bracket.ofChar?_eq_some_iff.1 hb]; exact step_closing hc h

theorem run_take (text : Text) (n : Nat) (hn : n ≤ text.length) :
    Tracks text n (.run (text.take n)) := by
  induction n with
  | zero => exact start text
  | succ n ih =>
    have hlt : n < text.length := hn
    have := (ih (Nat.le_of_lt hlt)).step (List.getElem?_eq_getElem hlt)
    rwa [List.take_succ_eq_append_getElem hlt, Pass.run_concat, List.length_take,
      Nat.min_eq_left (Nat.le_of_lt hlt)]

end Tracks

theorem mem_found_iff_balances (text : Text) (o c : Nat) (k : Family) :
    (o, c, k) ∈ (Pass.run text).found ↔ ∃ hlt, Balances text ⟨o, c, k, hlt⟩ := by
  have h := Tracks.run_take text text.length (Nat.le_refl _)
  rw [List.take_length] at h
  rw [h.found]
  exact ⟨And.right, fun hb => ⟨lt_length_of_get hb.2.closer_at, hb⟩⟩

/-! ## The pass and the searches -/

section
variable {text : Text}

/-- A pair of the text is what the search finds from either of its ends. -/
theorem partner?_end {p : Pair} (hb : Balances text p) (side : Side) :
    partner? text ⟨p.endOn side, ⟨p.family, side⟩⟩ = some p := by
  exact partner?_eq_some_iff_isPartner.2
    ⟨hb.get_endOn side, rfl, rfl, lt_length_of_get hb.closer_at, hb⟩

theorem balances_of_partner? {o : Occurrence} {p : Pair} (h : partner? text o = some p) :
    Balances text p :=
  (partner?_eq_some_iff_isPartner.1 h).balances

theorem at?_of_partner? {o : Occurrence} {p : Pair} (h : partner? text o = some p) :
    Occurrence.at? text o.offset = some o :=
  (isPartner_iff.1 (partner?_eq_some_iff_isPartner.1 h)).1

theorem offset_of_partner? {o : Occurrence} {p : Pair} (h : partner? text o = some p) :
    o.offset = p.opener ∨ o.offset = p.closer :=
  Pair.exists_endOn_iff.1 ⟨_, (partner?_eq_some_iff_isPartner.1 h).offset_eq⟩

/-- A bracket that stands at an end of a pair finds this pair. -/
theorem partner?_of_end {o : Occurrence} {p : Pair} (hd : Occurrence.at? text o.offset = some o)
    (hb : Balances text p) (he : o.offset = p.opener ∨ o.offset = p.closer) :
    partner? text o = some p := by
  have hchar := (Occurrence.at?_eq_some_iff.1 hd).2
  obtain ⟨side, hside⟩ := Pair.exists_endOn_iff.2 he
  obtain ⟨offset, b⟩ := o
  dsimp only at hchar hside
  subst hside
  rw [hb.get_endOn side, Option.some.injEq] at hchar
  cases Bracket.toChar_injective hchar
  exact partner?_end hb side

end

/-- The pass finds the pairs that the searches from the brackets of the text find; a bracket that
stands in none of its pairs has no partner; and the search to the right from an opener finds a pair
exactly if the search to the left from its closer does. -/
theorem mem_found_iff_partner? (text : Text) :
    (∀ opener closer k, (opener, closer, k) ∈ (Pass.run text).found ↔
      ∃ o hlt, Occurrence.at? text o.offset = some o ∧
        partner? text o = some ⟨opener, closer, k, hlt⟩) ∧
    (∀ o, Occurrence.at? text o.offset = some o →
      (partner? text o = none ↔ ∀ opener closer k, (opener, closer, k) ∈ (Pass.run text).found →
        o.offset ≠ opener ∧ o.offset ≠ closer)) ∧
    (∀ i j k (hlt : i < j), partner? text ⟨i, ⟨k, .opening⟩⟩ = some ⟨i, j, k, hlt⟩ ↔
      partner? text ⟨j, ⟨k, .closing⟩⟩ = some ⟨i, j, k, hlt⟩) := by
  refine ⟨fun opener closer k => ?_, fun o hd => ?_, fun i j k hlt => ⟨fun h => ?_, fun h => ?_⟩⟩
  · rw [mem_found_iff_balances]
    refine ⟨?_, ?_⟩
    · intro hyp
      obtain ⟨hlt, hb⟩ := hyp
      have h := partner?_end hb .opening
      exact ⟨_, hlt, at?_of_partner? h, h⟩
    · intro hyp
      obtain ⟨o, hlt, -, h⟩ := hyp
      exact ⟨hlt, balances_of_partner? h⟩
  · simp only [mem_found_iff_balances]
    refine ⟨?_, ?_⟩
    · intro hn opener closer k found
      obtain ⟨hlt, hb⟩ := found
      refine ⟨fun he => ?_, fun he => ?_⟩
      · rw [partner?_of_end hd hb (.inl he)] at hn; cases hn
      · rw [partner?_of_end hd hb (.inr he)] at hn; cases hn
    · intro h
      cases hp : partner? text o with
      | none => rfl
      | some p =>
        have := h p.opener p.closer p.family ⟨p.opener_lt_closer, balances_of_partner? hp⟩
        rcases offset_of_partner? hp with he | he
        · exact absurd he this.1
        · exact absurd he this.2
  · exact partner?_end (balances_of_partner? h) .closing
  · exact partner?_end (balances_of_partner? h) .opening

/-- Families do not get in each other's way, and what is left over has no partner. -/
example : (Pass.run "([)\x7b]\x7d(".toList).found =
    [(3, 5, .curly), (1, 4, .square), (0, 2, .paren)] := by decide

end BracketCue
