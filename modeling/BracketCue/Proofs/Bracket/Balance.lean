import BracketCue.Bracket.Matching

/-!
# Balance

When two brackets of a text are partners, said without a scan: they are an opener and a closer of
one family, and the text strictly between them is balanced in that family, all other characters
counting for nothing.

Both scans are compared with the *height* of a text at an offset, the openers of a family before
the offset less the closers. A bracket raises or lowers the height by one, so a pair is a stretch
of text over which the height comes back for the first time to where it began.

* `partnerDistance_eq_some_iff`: a walk stops at the first bracket that is one too many.
* `partnerDistance_drop`, `partnerDistance_take_reverse`: the walks to the right and to the left end
  at the two ends of a pair.
* `partner?_iff_isPartner`: the search finds the partner if there is one and none if there is none.
* `Balances.eq_of_shared_end`: a bracket has one partner at most, whichever end it stands at.
-/
namespace BracketCue

def Family.opener (k : Family) : Char :=
  Bracket.toChar ⟨k, .opening⟩

def Family.closer (k : Family) : Char :=
  Bracket.toChar ⟨k, .closing⟩

theorem Family.opener_ne_closer (k : Family) : k.opener ≠ k.closer := by
  cases k <;> decide

/-- A word with as many openers as closers of the family, and no prefix with more closers than
openers. -/
def Balanced (k : Family) (word : Text) : Prop :=
  word.count k.opener = word.count k.closer ∧
    ∀ p, p <+: word → p.count k.closer ≤ p.count k.opener

/-- The characters strictly between two offsets. -/
def Text.between (text : Text) (i j : Nat) : Text :=
  (text.take j).drop (i + 1)

def Pair.endOn (p : Pair) : Side → Nat
  | .opening => p.opener
  | .closing => p.closer

theorem Pair.exists_endOn_iff {p : Pair} {i : Nat} :
    (∃ side, i = p.endOn side) ↔ i = p.opener ∨ i = p.closer := by
  constructor
  · intro h
    obtain ⟨side, hi⟩ := h
    cases side with
    | opening => exact .inl hi
    | closing => exact .inr hi
  · intro h
    rcases h with h | h
    · exact ⟨.opening, h⟩
    · exact ⟨.closing, h⟩

/-- The pair is one of brackets of the text that balance each other. -/
structure Balances (text : Text) (p : Pair) : Prop where
  opener_at : text[p.opener]? = some p.family.opener
  closer_at : text[p.closer]? = some p.family.closer
  inside : Balanced p.family (text.between p.opener p.closer)

theorem Balances.get_endOn {text : Text} {p : Pair} (h : Balances text p) (side : Side) :
    text[p.endOn side]? = some (Bracket.toChar ⟨p.family, side⟩) := by
  cases side with
  | opening => exact h.opener_at
  | closing => exact h.closer_at

/-- The pair is that of the bracket `o`, which the text has at its offset. -/
structure IsPartner (text : Text) (o : Occurrence) (p : Pair) : Prop where
  described : text[o.offset]? = some o.bracket.toChar
  family_eq : p.family = o.bracket.family
  offset_eq : o.offset = p.endOn o.bracket.side
  closer_lt : p.closer < text.length
  balances : Balances text p

/-! ## Excess and height -/

/-- How many more brackets `b` than brackets answering `b` a word has. -/
def excess (b : Bracket) (word : Text) : Int :=
  (word.count b.toChar : Int) - word.count b.mate.toChar

theorem excess_nil (b : Bracket) : excess b [] = 0 := by
  simp [excess]

theorem excess_append (b : Bracket) (u v : Text) :
    excess b (u ++ v) = excess b u + excess b v := by
  simp only [excess, List.count_append]; omega

theorem excess_reverse (b : Bracket) (u : Text) : excess b u.reverse = excess b u := by
  simp only [excess, List.count_reverse]

theorem excess_mate (b : Bracket) (u : Text) : excess b.mate u = -excess b u := by
  simp only [excess, Bracket.mate_mate]; omega

theorem toChar_ne_mate (b : Bracket) : b.toChar ≠ b.mate.toChar :=
  fun h => b.mate_ne (Bracket.toChar_injective h).symm

theorem excess_cons_self (b : Bracket) (u : Text) :
    excess b (b.toChar :: u) = excess b u + 1 := by
  simp only [excess, List.count_cons_self, List.count_cons_of_ne (toChar_ne_mate b)]; omega

theorem excess_cons_mate (b : Bracket) (u : Text) :
    excess b (b.mate.toChar :: u) = excess b u - 1 := by
  simp only [excess, List.count_cons_self, List.count_cons_of_ne (toChar_ne_mate b).symm]; omega

theorem excess_cons_other {b : Bracket} {c : Char} (h1 : c ≠ b.toChar) (h2 : c ≠ b.mate.toChar)
    (u : Text) : excess b (c :: u) = excess b u := by
  simp only [excess, List.count_cons_of_ne h1, List.count_cons_of_ne h2]

/-- The openers of a family before an offset, less the closers. -/
def height (k : Family) (text : Text) (n : Nat) : Int :=
  excess ⟨k, .opening⟩ (text.take n)

section
variable {k : Family} {text : Text} {n : Nat}

theorem height_succ {c : Char} (h : text[n]? = some c) :
    height k text (n + 1) = height k text n + excess ⟨k, .opening⟩ [c] := by
  simp only [height, List.take_add_one, h, Option.toList_some, excess_append]

theorem height_succ_opener (h : text[n]? = some k.opener) :
    height k text (n + 1) = height k text n + 1 := by
  rw [height_succ h, Family.opener, excess_cons_self, excess_nil]; omega

theorem height_succ_closer (h : text[n]? = some k.closer) :
    height k text (n + 1) = height k text n - 1 := by
  have hc : k.closer = (Bracket.mate ⟨k, .opening⟩).toChar := rfl
  rw [height_succ h, hc, excess_cons_mate, excess_nil]; omega

theorem height_succ_other {c : Char} (h : text[n]? = some c) (h1 : c ≠ k.opener)
    (h2 : c ≠ k.closer) : height k text (n + 1) = height k text n := by
  rw [height_succ h, excess_cons_other h1 h2, excess_nil]; omega

/-- The excess of a stretch of text is the rise of the height over it. -/
theorem excess_stretch {i j : Nat} (h : i ≤ j) :
    excess ⟨k, .opening⟩ ((text.take j).drop i) = height k text j - height k text i := by
  have split : text.take j = text.take i ++ (text.take j).drop i := by
    have hi : (text.take j).take i = text.take i := by rw [List.take_take, Nat.min_eq_left h]
    rw [← hi, List.take_append_drop]
  have := congrArg (excess ⟨k, .opening⟩) split
  rw [excess_append] at this
  simp only [height]; omega

theorem balanced_iff_excess {word : Text} :
    Balanced k word ↔
      excess ⟨k, .opening⟩ word = 0 ∧ ∀ m, 0 ≤ excess ⟨k, .opening⟩ (word.take m) := by
  have hk : ∀ u : Text, excess ⟨k, .opening⟩ u = (u.count k.opener : Int) - u.count k.closer :=
    fun _ => rfl
  simp only [Balanced, hk]
  refine ⟨?_, ?_⟩
  · intro hyp
    obtain ⟨htotal, hprefix⟩ := hyp
    refine ⟨by omega, fun m => ?_⟩
    have := hprefix _ (List.take_prefix m word)
    omega
  · intro hyp
    obtain ⟨htotal, hprefix⟩ := hyp
    refine ⟨by omega, fun p hp => ?_⟩
    have := hprefix p.length
    rw [← List.prefix_iff_eq_take.1 hp] at this
    omega

/-- Balanced between two offsets: the height comes back to where it was after the first, and is
never below it on the way. -/
theorem balanced_between_iff {i j : Nat} (h : i < j) :
    Balanced k (text.between i j) ↔
      height k text j = height k text (i + 1) ∧
        ∀ m, i < m → m ≤ j → height k text (i + 1) ≤ height k text m := by
  have total : excess ⟨k, .opening⟩ ((text.take j).drop (i + 1)) =
      height k text j - height k text (i + 1) := excess_stretch h
  have part : ∀ m, i + 1 + m ≤ j → excess ⟨k, .opening⟩ ((text.between i j).take m) =
      height k text (i + 1 + m) - height k text (i + 1) := by
    intro m hm
    rw [Text.between, List.take_drop, List.take_take, Nat.min_eq_left hm,
      excess_stretch (Nat.le_add_right _ _)]
  rw [balanced_iff_excess, show text.between i j = (text.take j).drop (i + 1) from rfl, total]
  refine ⟨?_, ?_⟩
  · intro hyp
    obtain ⟨h0, hp⟩ := hyp
    refine ⟨by omega, fun m hi hm => ?_⟩
    have := hp (m - (i + 1))
    rw [show (text.take j).drop (i + 1) = text.between i j from rfl, part _ (by omega),
      show i + 1 + (m - (i + 1)) = m by omega] at this
    omega
  · intro hyp
    obtain ⟨h0, hp⟩ := hyp
    refine ⟨by omega, fun m => ?_⟩
    rcases Nat.lt_or_ge j (i + 1 + m) with hm | hm
    · rw [List.take_of_length_le (by simp; omega), total]; omega
    · have := hp (i + 1 + m) (by omega) hm
      rw [show (text.take j).drop (i + 1) = text.between i j from rfl, part m hm]; omega

end

/-! ## The scan -/

/-- A walk away from a bracket `b` with `inner` brackets open ends `d` characters on exactly when
a bracket answering `b` stands there, the brackets on the way use up those open, and at no earlier
place have more been answered than were open. -/
theorem partnerDistance_eq_some_iff {b : Bracket} {inner d : Nat} {walk : Text} :
    partnerDistance b inner walk = some d ↔
      walk[d]? = some b.mate.toChar ∧ inner + excess b (walk.take d) = 0 ∧
        ∀ n, n ≤ d → 0 ≤ inner + excess b (walk.take n) := by
  induction walk generalizing inner d with
  | nil => simp [partnerDistance]
  | cons c rest ih =>
    -- one character further on: the claim for `rest`, whose depth is `inner'`
    have step : ∀ inner' : Nat, (∀ u, inner + excess b (c :: u) = inner' + excess b u) →
        ¬(c = b.mate.toChar ∧ inner = 0) →
        ((partnerDistance b inner' rest).map (· + 1) = some d ↔
          (c :: rest)[d]? = some b.mate.toChar ∧ inner + excess b ((c :: rest).take d) = 0 ∧
            ∀ n, n ≤ d → 0 ≤ inner + excess b ((c :: rest).take n)) := by
      intro inner' hc hfirst
      cases d with
      | zero =>
        simp only [Option.map_eq_some_iff, Nat.succ_ne_zero, and_false, exists_false, false_iff]
        intro hyp
        obtain ⟨h1, h2, -⟩ := hyp
        rw [List.getElem?_cons_zero, Option.some.injEq] at h1
        rw [List.take_zero, excess_nil] at h2
        exact hfirst ⟨h1, by omega⟩
      | succ d =>
        simp only [Option.map_eq_some_iff, Nat.succ.injEq, exists_eq_right, ih,
          List.getElem?_cons_succ, List.take_succ_cons, hc]
        refine and_congr_right fun _ => and_congr_right fun _ => ?_
        refine ⟨fun h n hn => ?_, fun h n hn => ?_⟩
        · cases n with
          | zero => rw [List.take_zero, excess_nil]; omega
          | succ n => rw [List.take_succ_cons, hc]; exact h n (by omega)
        · have := h (n + 1) (by omega)
          rwa [List.take_succ_cons, hc] at this
    unfold partnerDistance
    split
    · next hb =>
      subst hb
      exact step (inner + 1) (fun u => by rw [excess_cons_self]; omega)
        (fun h => toChar_ne_mate b h.1)
    · next hb =>
      split
      · next hm =>
        subst hm
        split
        · -- nothing is open: the walk ends here, since going on would close one too many
          cases d with
          | zero => simp [excess_nil]
          | succ d =>
            simp only [Option.some.injEq, (Nat.succ_ne_zero d).symm, false_iff]
            intro hyp
            obtain ⟨-, -, h⟩ := hyp
            have := h 1 (by omega)
            rw [List.take_succ_cons, List.take_zero, excess_cons_mate, excess_nil] at this
            omega
        · exact step _ (fun u => by rw [excess_cons_mate]; omega) (fun h => Nat.succ_ne_zero _ h.2)
      · next hm =>
        exact step inner (fun u => by rw [excess_cons_other hb hm]) (fun h => hm h.1)

/-! ## Pairs by height -/

section
variable {text : Text}

theorem lt_length_of_get {i : Nat} {c : Char} (h : text[i]? = some c) : i < text.length :=
  (List.getElem?_eq_some_iff.1 h).1

theorem balances_iff {p : Pair} :
    Balances text p ↔
      text[p.opener]? = some p.family.opener ∧ text[p.closer]? = some p.family.closer ∧
        height p.family text p.closer = height p.family text (p.opener + 1) ∧
          ∀ m, p.opener < m → m ≤ p.closer →
            height p.family text (p.opener + 1) ≤ height p.family text m := by
  rw [← balanced_between_iff p.opener_lt_closer]
  refine ⟨?_, ?_⟩
  · intro hyp
    exact ⟨hyp.opener_at, hyp.closer_at, hyp.inside⟩
  · intro hyp
    exact ⟨hyp.1, hyp.2.1, hyp.2.2⟩

/-- The walk to the right from an opener ends at its closer. -/
theorem partnerDistance_drop {k : Family} {o c : Nat} (h : o < c)
    (ho : text[o]? = some k.opener) :
    partnerDistance ⟨k, .opening⟩ 0 (text.drop (o + 1)) = some (c - (o + 1)) ↔
      Balances text ⟨o, c, k, h⟩ := by
  rw [partnerDistance_eq_some_iff, balances_iff]
  have rise : ∀ n, excess ⟨k, .opening⟩ ((text.drop (o + 1)).take n) =
      height k text (o + 1 + n) - height k text (o + 1) := by
    intro n
    rw [List.take_drop, excess_stretch (Nat.le_add_right _ _)]
  simp only [rise, List.getElem?_drop, show o + 1 + (c - (o + 1)) = c by omega]
  refine ⟨?_, ?_⟩
  · intro hyp
    obtain ⟨hc, h0, hn⟩ := hyp
    refine ⟨ho, hc, by omega, fun m hom hmc => ?_⟩
    have := hn (m - (o + 1)) (by omega)
    rw [show o + 1 + (m - (o + 1)) = m by omega] at this
    omega
  · intro hyp
    obtain ⟨-, hc, h0, hm⟩ := hyp
    refine ⟨hc, by omega, fun n hn => ?_⟩
    have := hm (o + 1 + n) (by omega) (by omega)
    omega

/-- The walk to the left from a closer ends at its opener. -/
theorem partnerDistance_take_reverse {k : Family} {o c : Nat} (h : o < c)
    (hc : text[c]? = some k.closer) :
    partnerDistance ⟨k, .closing⟩ 0 (text.take c).reverse = some (c - 1 - o) ↔
      Balances text ⟨o, c, k, h⟩ := by
  have hlen := lt_length_of_get hc
  rw [partnerDistance_eq_some_iff, balances_iff]
  have rise : ∀ n, n ≤ c → excess ⟨k, .closing⟩ ((text.take c).reverse.take n) =
      height k text (c - n) - height k text c := by
    intro n hn
    rw [List.take_reverse, excess_reverse, List.length_take, Nat.min_eq_left (Nat.le_of_lt hlen),
      show (⟨k, .closing⟩ : Bracket) = Bracket.mate ⟨k, .opening⟩ from rfl, excess_mate,
      excess_stretch (Nat.sub_le c n)]
    omega
  have at_opener : (text.take c).reverse[c - 1 - o]? = text[o]? := by
    rw [List.getElem?_reverse (by rw [List.length_take]; omega), List.length_take,
      List.getElem?_take_of_lt (by omega)]
    congr 1; omega
  rw [at_opener, rise _ (by omega), show c - (c - 1 - o) = o + 1 by omega]
  dsimp only
  refine ⟨?_, ?_⟩
  · intro hyp
    obtain ⟨ho, h0, hn⟩ := hyp
    refine ⟨ho, hc, by omega, fun m hom hmc => ?_⟩
    have := hn (c - m) (by omega)
    rw [rise _ (by omega), show c - (c - m) = m by omega] at this
    omega
  · intro hyp
    obtain ⟨ho, -, h0, hm⟩ := hyp
    refine ⟨ho, by omega, fun n hn => ?_⟩
    have := hm (c - n) (by omega) (by omega)
    rw [rise n (by omega)]; omega

theorem partner?_opening {o : Occurrence} (hs : o.bracket.side = .opening)
    (hd : Occurrence.at? text o.offset = some o) (p : Pair) :
    partner? text o = some p ↔
      p.family = o.bracket.family ∧ o.offset = p.opener ∧ Balances text p := by
  obtain ⟨offset, k, side⟩ := o
  obtain ⟨opener, closer, family, hlt⟩ := p
  cases hs
  have ho := (Occurrence.at?_eq_some_iff.1 hd).2
  simp only [partner?, if_pos hd, Option.map_eq_some_iff, Pair.mk.injEq]
  refine ⟨?_, ?_⟩
  · intro hyp
    obtain ⟨d, h, rfl, rfl, rfl⟩ := hyp
    refine ⟨rfl, rfl, (partnerDistance_drop hlt ho).1 ?_⟩
    rw [h]; congr 1; omega
  · intro hyp
    obtain ⟨rfl, rfl, h⟩ := hyp
    exact ⟨_, (partnerDistance_drop hlt ho).2 h, rfl, by omega, rfl⟩

theorem partner?_closing {o : Occurrence} (hs : o.bracket.side = .closing)
    (hd : Occurrence.at? text o.offset = some o) (p : Pair) :
    partner? text o = some p ↔
      p.family = o.bracket.family ∧ o.offset = p.closer ∧ Balances text p := by
  obtain ⟨offset, k, side⟩ := o
  obtain ⟨opener, closer, family, hlt⟩ := p
  cases hs
  have hc := (Occurrence.at?_eq_some_iff.1 hd).2
  simp only [partner?, if_pos hd]
  refine ⟨?_, ?_⟩
  · intro h
    split at h
    · cases h
    · next d hd' =>
      have hlen := partnerDistance_lt hd'
      simp only [List.length_reverse, List.length_take] at hlen
      simp only [Option.some.injEq, Pair.mk.injEq] at h
      obtain ⟨rfl, rfl, rfl⟩ := h
      refine ⟨rfl, rfl, (partnerDistance_take_reverse hlt hc).1 ?_⟩
      rw [hd']; congr 1; omega
  · intro hyp
    obtain ⟨rfl, rfl, h⟩ := hyp
    have hd' := (partnerDistance_take_reverse hlt hc).2 h
    split
    · next hn => rw [hn] at hd'; cases hd'
    · next d hs =>
      rw [hs] at hd'
      simp only [Option.some.injEq, Pair.mk.injEq, and_true] at hd' ⊢
      omega

theorem isPartner_iff {o : Occurrence} {p : Pair} :
    IsPartner text o p ↔ Occurrence.at? text o.offset = some o ∧ p.family = o.bracket.family ∧
      o.offset = p.endOn o.bracket.side ∧ Balances text p := by
  rw [Occurrence.at?_eq_some_iff]
  refine ⟨?_, ?_⟩
  · intro hyp
    obtain ⟨hd, hf, ho, -, hb⟩ := hyp
    exact ⟨⟨rfl, hd⟩, hf, ho, hb⟩
  · intro hyp
    obtain ⟨⟨-, hd⟩, hf, ho, hb⟩ := hyp
    exact ⟨hd, hf, ho, lt_length_of_get hb.closer_at, hb⟩

theorem partner?_eq_some_iff_isPartner {o : Occurrence} {p : Pair} :
    partner? text o = some p ↔ IsPartner text o p := by
  rw [isPartner_iff]
  by_cases hd : Occurrence.at? text o.offset = some o
  · cases hs : o.bracket.side with
    | opening => rw [partner?_opening hs hd]; simp only [hd, Pair.endOn, true_and]
    | closing => rw [partner?_closing hs hd]; simp only [hd, Pair.endOn, true_and]
  · simp [partner?, hd]

end

/-- The search for a partner is sound and complete: what it finds is the pair of the bracket, and
it finds none only if there is none, also for a bracket that the text does not have. -/
theorem partner?_iff_isPartner (text : Text) (o : Occurrence) :
    (∀ p, partner? text o = some p ↔ IsPartner text o p) ∧
      (partner? text o = none ↔ ¬∃ p, IsPartner text o p) := by
  refine ⟨fun p => partner?_eq_some_iff_isPartner, ?_⟩
  simp only [← partner?_eq_some_iff_isPartner, Option.eq_none_iff_forall_ne_some, not_exists, ne_eq]

/-! ## One partner at most -/

section
variable {text : Text} {p q : Pair}

theorem Balances.family_eq_of_opener (hp : Balances text p) (hq : Balances text q)
    (h : p.opener = q.opener) : p.family = q.family := by
  have he := hp.opener_at
  rw [h, hq.opener_at, Option.some.injEq] at he
  exact (congrArg Bracket.family (Bracket.toChar_injective he)).symm

theorem Balances.family_eq_of_closer (hp : Balances text p) (hq : Balances text q)
    (h : p.closer = q.closer) : p.family = q.family := by
  have he := hp.closer_at
  rw [h, hq.closer_at, Option.some.injEq] at he
  exact (congrArg Bracket.family (Bracket.toChar_injective he)).symm

/-- No bracket opens one pair and closes another. -/
theorem Balances.opener_ne_closer (hp : Balances text p) (hq : Balances text q) :
    p.opener ≠ q.closer := by
  intro h
  have he := hp.opener_at
  rw [h, hq.closer_at, Option.some.injEq] at he
  cases congrArg Bracket.side (Bracket.toChar_injective he)

/-- Beyond its closer the height of a pair has fallen below the height after its opener. -/
theorem Balances.closer_le (hp : Balances text p) (hq : Balances text q)
    (h : p.opener = q.opener) : q.closer ≤ p.closer := by
  have hf := hp.family_eq_of_opener hq h
  obtain ⟨-, hc, hp0, -⟩ := balances_iff.1 hp
  obtain ⟨-, -, -, hq1⟩ := balances_iff.1 hq
  rw [← hf, ← h] at hq1
  have := height_succ_closer hc
  have := p.opener_lt_closer
  rcases Nat.lt_or_ge p.closer q.closer with hlt | hge
  · have := hq1 (p.closer + 1) (by omega) hlt; omega
  · exact hge

theorem Balances.opener_le (hp : Balances text p) (hq : Balances text q)
    (h : p.closer = q.closer) : q.opener ≤ p.opener := by
  have hf := hp.family_eq_of_closer hq h
  obtain ⟨-, -, hp0, hp1⟩ := balances_iff.1 hp
  obtain ⟨ho, -, hq0, -⟩ := balances_iff.1 hq
  rw [← hf] at ho
  rw [← hf, ← h] at hq0
  have := height_succ_opener ho
  have := q.opener_lt_closer
  rcases Nat.lt_or_ge p.opener q.opener with hlt | hge
  · have := hp1 q.opener hlt (by omega); omega
  · exact hge

/-- Pairs of one text that share an end are the same pair. -/
theorem Balances.eq_of_shared_end (hp : Balances text p) (hq : Balances text q) {i : Nat}
    (hi : i = p.opener ∨ i = p.closer) (hi' : i = q.opener ∨ i = q.closer) : p = q := by
  have same : p.opener = q.opener → p.closer = q.closer → p = q := by
    intro ho hc
    have hf := hp.family_eq_of_opener hq ho
    cases p; cases q
    simp_all
  rcases hi with rfl | rfl <;> rcases hi' with h | h
  · exact same h (Nat.le_antisymm (hq.closer_le hp h.symm) (hp.closer_le hq h))
  · exact absurd h (hp.opener_ne_closer hq)
  · exact absurd h.symm (hq.opener_ne_closer hp)
  · exact same (Nat.le_antisymm (hq.opener_le hp h.symm) (hp.opener_le hq h)) h

end

end BracketCue
