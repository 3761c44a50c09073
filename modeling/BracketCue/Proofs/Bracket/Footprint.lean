import BracketCue.Proofs.Bracket.OnePass

/-!
# What a match depends on

The search reads no more of a text than the brackets of one family between the two ends of the pair
it finds. So a match survives every edit that leaves these alone: the text before the opener and
behind the closer may be any other, and between the two all else may be inserted, removed or
replaced.

* `Text.between_around`: a stretch between two characters is found again in any surroundings.
* `balanced_bracketsOf`: balance is a matter of the brackets of the family.
* `balances_around_iff`: two characters are the ends of a pair whatever stands around them.
* `match_survives_edits`: the search in two texts that agree on the brackets of a match.
-/
namespace BracketCue

def Family.has (k : Family) (c : Char) : Bool :=
  c = k.opener ∨ c = k.closer

/-- The brackets of a family in a text, in order. -/
def Family.bracketsOf (k : Family) (text : Text) : Text :=
  text.filter k.has

/-- The search from the bracket at offset `i` finds the pair with the given ends. -/
def FindsFrom (text : Text) (i : Nat) (k : Family) (opener closer : Nat) : Prop :=
  ∃ o hlt, Occurrence.at? text i = some o ∧ partner? text o = some ⟨opener, closer, k, hlt⟩

/-- An opener and a closer of the family around a balanced word. -/
def Matched (k : Family) (word : Text) : Prop :=
  ∃ inner, word = k.opener :: (inner ++ [k.closer]) ∧ Balanced k inner

/-! ## Only the brackets of the family count -/

section
variable {k : Family}

theorem Family.has_opener : k.has k.opener = true :=
  decide_eq_true (.inl rfl)

theorem Family.has_closer : k.has k.closer = true :=
  decide_eq_true (.inr rfl)

theorem count_opener_bracketsOf (word : Text) :
    (k.bracketsOf word).count k.opener = word.count k.opener :=
  List.count_filter Family.has_opener

theorem count_closer_bracketsOf (word : Text) :
    (k.bracketsOf word).count k.closer = word.count k.closer :=
  List.count_filter Family.has_closer

/-- A word is balanced if its brackets of the family are. -/
theorem balanced_bracketsOf {word : Text} : Balanced k (k.bracketsOf word) ↔ Balanced k word := by
  rw [Balanced, Balanced, count_opener_bracketsOf, count_closer_bracketsOf]
  refine and_congr_right fun _ => ⟨fun h p hp => ?_, fun h q hq => ?_⟩
  · have := h (k.bracketsOf p) (hp.filter k.has)
    rwa [count_opener_bracketsOf, count_closer_bracketsOf] at this
  · obtain ⟨p, hp, rfl⟩ := List.prefix_filter_iff.1 hq
    have := h p hp
    rwa [← count_opener_bracketsOf, ← count_closer_bracketsOf] at this

theorem bracketsOf_around (inner : Text) :
    k.bracketsOf (k.opener :: (inner ++ [k.closer])) =
      k.opener :: (k.bracketsOf inner ++ [k.closer]) := by
  rw [Family.bracketsOf, List.filter_cons_of_pos Family.has_opener, List.filter_append,
    List.filter_cons_of_pos Family.has_closer, List.filter_nil, Family.bracketsOf]

/-- A word that begins and ends like a matched one and has the same brackets of the family is
matched too. -/
theorem Matched.of_bracketsOf_eq {word word' : Text} (h : Matched k word)
    (first : word'.head? = word.head?) (last : word'.getLast? = word.getLast?)
    (same : k.bracketsOf word' = k.bracketsOf word) : Matched k word' := by
  obtain ⟨inner, rfl, balanced⟩ := h
  cases word' with
  | nil => cases first
  | cons c rest =>
    cases Option.some.inj first
    rcases List.eq_nil_or_concat rest with rfl | ⟨inner', d, rfl⟩
    · -- one character would be the opener and the closer at once
      rw [← List.cons_append, List.getLast?_concat] at last
      exact absurd (Option.some.inj last) k.opener_ne_closer
    · rw [List.concat_eq_append] at last same ⊢
      rw [← List.cons_append, ← List.cons_append, List.getLast?_concat, List.getLast?_concat] at last
      cases Option.some.inj last
      rw [bracketsOf_around, bracketsOf_around, List.cons.injEq, List.append_left_inj] at same
      rw [← balanced_bracketsOf, ← same.2, balanced_bracketsOf] at balanced
      exact ⟨inner', rfl, balanced⟩

end

/-! ## Surroundings do not count -/

section
variable {k : Family} {u v : Text}

/-- What stands between two characters is found again between their places. -/
theorem Text.between_around (u inner v : Text) (a b : Char) :
    (u ++ a :: (inner ++ b :: v)).between u.length (u.length + inner.length + 1) = inner := by
  rw [between, ← List.cons_append, ← List.append_assoc, List.take_left' (by simp; omega),
    ← List.singleton_append, ← List.append_assoc, List.drop_left' (by simp)]

theorem last_around (u inner : Text) (a b : Char) :
    u.length + (a :: (inner ++ [b])).length - 1 = u.length + inner.length + 1 := by
  rw [List.length_cons, List.length_append, List.length_singleton]
  omega

/-- Two characters are the ends of a pair if they are brackets around a balanced word, whatever
stands before and behind them. -/
theorem balances_around_iff {a b : Char} {inner : Text}
    (hlt : u.length < u.length + inner.length + 1) :
    Balances (u ++ a :: (inner ++ b :: v)) ⟨u.length, u.length + inner.length + 1, k, hlt⟩ ↔
      a = k.opener ∧ b = k.closer ∧ Balanced k inner := by
  have at_opener : (u ++ a :: (inner ++ b :: v))[u.length]? = some a := by simp
  have at_closer : (u ++ a :: (inner ++ b :: v))[u.length + inner.length + 1]? = some b := by
    rw [List.getElem?_append_right (by omega)]
    simp [show u.length + inner.length + 1 - u.length = inner.length + 1 by omega]
  constructor
  · intro h
    have ho := h.opener_at
    have hc := h.closer_at
    have hin := h.inside
    dsimp only at ho hc hin
    rw [at_opener, Option.some.injEq] at ho
    rw [at_closer, Option.some.injEq] at hc
    rw [Text.between_around] at hin
    exact ⟨ho, hc, hin⟩
  · intro h
    obtain ⟨rfl, rfl, balanced⟩ := h
    refine ⟨at_opener, at_closer, ?_⟩
    dsimp only
    rwa [Text.between_around]

theorem FindsFrom.balances {text : Text} {i opener closer : Nat}
    (h : FindsFrom text i k opener closer) : ∃ hlt, Balances text ⟨opener, closer, k, hlt⟩ := by
  obtain ⟨o, hlt, -, found⟩ := h
  exact ⟨hlt, balances_of_partner? found⟩

theorem Balances.findsFrom {text : Text} {p : Pair} (h : Balances text p) (side : Side) :
    FindsFrom text (p.endOn side) p.family p.opener p.closer :=
  ⟨_, p.opener_lt_closer, at?_of_partner? (partner?_end h side), partner?_end h side⟩

/-- A pair that spans a stretch of the text is matched within this stretch. -/
theorem FindsFrom.matched {m : Text} {i : Nat}
    (h : FindsFrom (u ++ m ++ v) i k u.length (u.length + m.length - 1)) : Matched k m := by
  cases m with
  | nil =>
    obtain ⟨hlt, -⟩ := h.balances
    rw [List.length_nil] at hlt
    omega
  | cons a rest =>
    rcases List.eq_nil_or_concat rest with rfl | ⟨inner, b, rfl⟩
    · obtain ⟨hlt, -⟩ := h.balances
      rw [List.length_singleton] at hlt
      omega
    · rw [List.concat_eq_append] at h ⊢
      rw [last_around, List.append_assoc, List.cons_append, List.append_assoc,
        List.singleton_append] at h
      obtain ⟨hlt, balances⟩ := h.balances
      obtain ⟨rfl, rfl, balanced⟩ := (balances_around_iff hlt).1 balances
      exact ⟨inner, rfl, balanced⟩

/-- A matched stretch is found from either of its ends in any surroundings. -/
theorem Matched.findsFrom {m : Text} (h : Matched k m) (u v : Text) :
    FindsFrom (u ++ m ++ v) u.length k u.length (u.length + m.length - 1) ∧
      FindsFrom (u ++ m ++ v) (u.length + m.length - 1) k u.length (u.length + m.length - 1) := by
  obtain ⟨inner, rfl, balanced⟩ := h
  have balances := (balances_around_iff (v := v) (show u.length < u.length + inner.length + 1 by
    omega)).2 ⟨rfl, rfl, balanced⟩
  rw [last_around, List.append_assoc, List.cons_append, List.append_assoc, List.singleton_append]
  exact ⟨balances.findsFrom .opening, balances.findsFrom .closing⟩

end

/-- A match survives every edit that does not touch its own brackets. If the search finds the pair
that spans `m` from one of its ends, then it finds the pair that spans `m'` from both of its ends, in
any other surroundings, for every `m'` that begins and ends like `m` and has the same brackets of
the family in the same order. -/
theorem match_survives_edits (k : Family) (u m v u' m' v' : Text)
    (found : FindsFrom (u ++ m ++ v) u.length k u.length (u.length + m.length - 1) ∨
      FindsFrom (u ++ m ++ v) (u.length + m.length - 1) k u.length (u.length + m.length - 1))
    (first : m'.head? = m.head?) (last : m'.getLast? = m.getLast?)
    (same : k.bracketsOf m' = k.bracketsOf m) :
    FindsFrom (u' ++ m' ++ v') u'.length k u'.length (u'.length + m'.length - 1) ∧
      FindsFrom (u' ++ m' ++ v') (u'.length + m'.length - 1) k u'.length
        (u'.length + m'.length - 1) := by
  have matched : Matched k m := by
    rcases found with h | h
    · exact h.matched
    · exact h.matched
  exact (matched.of_bracketsOf_eq first last same).findsFrom u' v'

/-- Other brackets around a pair and within it. -/
theorem match_survives_edits_crossed :
    let m := "(a()b)".toList
    let m' := "([(])x[)".toList
    FindsFrom (")".toList ++ m ++ "]".toList) 1 .paren 1 6 ∧
      m'.head? = m.head? ∧ m'.getLast? = m.getLast? ∧
      Family.bracketsOf .paren m' = Family.bracketsOf .paren m ∧
      FindsFrom ("((".toList ++ m' ++ "]))".toList) 2 .paren 2 9 ∧
      FindsFrom ("((".toList ++ m' ++ "]))".toList) 9 .paren 2 9 := by
  intro m m'
  have found : FindsFrom (")".toList ++ m ++ "]".toList) 1 .paren 1 6 :=
    ⟨⟨1, .paren, .opening⟩, by decide, by decide, by decide⟩
  have first : m'.head? = m.head? := by decide
  have last : m'.getLast? = m.getLast? := by decide
  have same : Family.bracketsOf .paren m' = Family.bracketsOf .paren m := by decide
  exact ⟨found, first, last, same, match_survives_edits .paren ")".toList m "]".toList "((".toList m'
    "]))".toList (.inl found) first last same⟩

end BracketCue
