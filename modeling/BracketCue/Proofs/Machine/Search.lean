import BracketCue.Bracket.Matching
import BracketCue.Proofs.Machine.Word

/-!
# The search in machine words

The search for a partner as a machine does it. The brackets of the family are taken one after the
other with their offsets, beginning with the bracket itself, and an unsigned word counts how many of
them are open: it goes up by one at a bracket like the first one and down by one at any other, and
where it comes to zero the partner stands. Nothing keeps the count from falling below zero but the
way in which the walk begins and ends: its first bracket is the one that is asked for, so the count
begins at one, and it stops as soon as the count is zero.

* `walk_filter`: from a count of one on, the walk goes as far as the distance of the partner says.
* `partner?_eq_ok`: the search for a partner is not trapped and finds what the exact search finds.
* `search_never_traps`: nor is the search at a cursor, for any text, bracket and cursor.
-/
namespace BracketCue.Machine

def ofFamily (k : Family) (placed : Char × Nat) : Bool :=
  (Bracket.ofChar? placed.1).any (·.family = k)

/-- Walks over brackets, each with its offset, of which `depth` are open, up to the offset at which
none is open any more. A bracket like `b` opens another one, any other bracket closes one. -/
def walk (b : Bracket) (depth : Nat) : List (Char × Nat) → Except Trap (Option Nat)
  | [] => .ok none
  | (c, offset) :: rest =>
    if c = b.toChar then do
      let depth ← unsigned (depth + 1)
      walk b depth rest
    else do
      let depth ← unsigned (depth - 1)
      if depth = 0 then .ok (some offset) else walk b depth rest

def partner? (text : Text) (o : Occurrence) : Except Trap (Option Pair) :=
  if Occurrence.at? text o.offset ≠ some o then .ok none
  else match o.bracket.side with
    | .opening => do
      let closer? ← walk o.bracket 0
        ((text.zipIdx.drop o.offset).filter (ofFamily o.bracket.family))
      closer?.mapM fun closer => pair o.offset closer o.bracket.family
    | .closing => do
      let behind ← unsigned (o.offset + 1)
      let front ← cut text (min behind text.length)
      let opener? ← walk o.bracket 0 (front.zipIdx.reverse.filter (ofFamily o.bracket.family))
      opener?.mapM fun opener => pair opener o.offset o.bracket.family

def activeBracket? (text : Text) (cursor : Nat) : ActiveBracket → Except Trap (Option Occurrence)
  | .underCursor => .ok (Occurrence.at? text cursor)
  | .leftThenUnder => do
    let left ←
      if 0 < cursor then (unsigned (cursor - 1)).map (Occurrence.at? text) else .ok none
    return left.orElse fun _ => Occurrence.at? text cursor

def activePair? (text : Text) (cursor : Nat) (choice : ActiveBracket) :
    Except Trap (Option (Occurrence × Pair)) := do
  match ← activeBracket? text cursor choice with
  | none => return none
  | some active =>
    let pair? ← partner? text active
    return pair?.map (active, ·)

/-! ## The walk -/

theorem ofFamily_iff {b : Bracket} {c : Char} {offset : Nat} :
    ofFamily b.family (c, offset) = true ↔ c = b.toChar ∨ c = b.mate.toChar := by
  rw [ofFamily, Option.any_eq_true]
  constructor
  · intro h
    obtain ⟨⟨family, side⟩, hc, hf⟩ := h
    dsimp only at hc hf
    rw [Bracket.ofChar?_eq_some_iff.1 hc]
    obtain ⟨k, side'⟩ := b
    cases of_decide_eq_true hf
    cases side <;> cases side' <;> simp [Bracket.mate, Side.flip]
  · intro h
    rcases h with rfl | rfl
    · exact ⟨b, Bracket.ofChar?_toChar b, decide_eq_true rfl⟩
    · exact ⟨b.mate, Bracket.ofChar?_toChar b.mate, decide_eq_true rfl⟩

/-- With `inner + 1` brackets open the walk ends at the bracket that closes them all, if there is
one, and the count is never taken below zero or above what a word holds. -/
theorem walk_filter {b : Bracket} {inner : Nat} {view : List (Char × Nat)}
    (fits : inner + 1 + view.length < 2 ^ 64) :
    walk b (inner + 1) (view.filter (ofFamily b.family)) =
      .ok ((partnerDistance b inner (view.map Prod.fst)).bind fun d => view[d]?.map Prod.snd) := by
  induction view generalizing inner with
  | nil => rfl
  | cons head rest ih =>
    obtain ⟨c, offset⟩ := head
    rw [List.length_cons] at fits
    have next : ∀ found : Option Nat,
        ((found.map (· + 1)).bind fun d => ((c, offset) :: rest)[d]?.map Prod.snd) =
          found.bind fun d => rest[d]?.map Prod.snd := by
      intro found
      cases found <;> rfl
    rw [List.map_cons]
    unfold partnerDistance
    by_cases like : c = b.toChar
    · rw [List.filter_cons_of_pos (ofFamily_iff.2 (.inl like)), walk, if_pos like, if_pos like,
        next, unsigned_of_eq (m := inner + 2) (by omega) (by omega), ← ih (by omega)]
      rfl
    · by_cases mate : c = b.mate.toChar
      · rw [List.filter_cons_of_pos (ofFamily_iff.2 (.inr mate)), walk, if_neg like, if_neg like,
          if_pos mate, unsigned_of_eq (m := inner) (by omega) (by omega)]
        cases inner with
        | zero => rfl
        | succ inner =>
          dsimp only
          rw [next, ← ih (by omega)]
          rfl
      · have other : ¬ofFamily b.family (c, offset) = true := by
          rw [ofFamily_iff, not_or]
          exact ⟨like, mate⟩
        rw [List.filter_cons_of_neg other, if_neg like, if_neg mate, next, ih (by omega)]

/-- A walk that begins with the bracket itself goes to its partner. -/
theorem walk_filter_cons {b : Bracket} {view : List (Char × Nat)} (offset : Nat)
    (fits : view.length + 1 < 2 ^ 64) :
    walk b 0 (((b.toChar, offset) :: view).filter (ofFamily b.family)) =
      .ok ((partnerDistance b 0 (view.map Prod.fst)).bind fun d => view[d]?.map Prod.snd) := by
  rw [List.filter_cons_of_pos (ofFamily_iff.2 (.inl rfl)), walk, if_pos rfl,
    unsigned_of_eq (m := 1) (by omega) (by omega), ← walk_filter (by omega)]
  rfl

/-! ## The search -/

section
variable {text : Text} {b : Bracket} {i : Nat}

/-- The walk to the right from an opener. -/
theorem walk_drop (short : text.length < 2 ^ 64) (here : text[i]? = some b.toChar) :
    walk b 0 ((text.zipIdx.drop i).filter (ofFamily b.family)) =
      .ok ((partnerDistance b 0 (text.drop (i + 1))).map (i + 1 + ·)) := by
  obtain ⟨hi, get⟩ := List.getElem?_eq_some_iff.1 here
  have view : text.zipIdx.drop i = (b.toChar, i) :: text.zipIdx.drop (i + 1) := by
    rw [List.drop_eq_getElem_cons (by rwa [List.length_zipIdx]), List.getElem_zipIdx, get,
      Nat.zero_add]
  have chars : (text.zipIdx.drop (i + 1)).map Prod.fst = text.drop (i + 1) := by
    rw [List.map_drop, List.zipIdx_map_fst]
  rw [view, walk_filter_cons i (by rw [List.length_drop, List.length_zipIdx]; omega), chars]
  congr 1
  cases found : partnerDistance b 0 (text.drop (i + 1)) with
  | none => rfl
  | some d =>
    have hd := partnerDistance_lt found
    rw [List.length_drop] at hd
    simp [List.getElem?_eq_getElem (show i + 1 + d < text.length by omega)]

/-- The walk to the left from a closer. -/
theorem walk_take_reverse (short : text.length < 2 ^ 64) (here : text[i]? = some b.toChar) :
    walk b 0 ((text.take (i + 1)).zipIdx.reverse.filter (ofFamily b.family)) =
      .ok ((partnerDistance b 0 (text.take i).reverse).map (i - 1 - ·)) := by
  have hi := (List.getElem?_eq_some_iff.1 here).1
  have hlen : (text.take i).length = i := by
    rw [List.length_take]
    omega
  have view : (text.take (i + 1)).zipIdx.reverse =
      (b.toChar, i) :: (text.take i).zipIdx.reverse := by
    rw [List.take_add_one, here, Option.toList_some, List.zipIdx_append, List.reverse_append, hlen]
    simp
  have chars : (text.take i).zipIdx.reverse.map Prod.fst = (text.take i).reverse := by
    rw [List.map_reverse, List.zipIdx_map_fst]
  rw [view, walk_filter_cons i (by rw [List.length_reverse, List.length_zipIdx]; omega), chars]
  congr 1
  cases found : partnerDistance b 0 (text.take i).reverse with
  | none => rfl
  | some d =>
    have hd := partnerDistance_lt found
    rw [List.length_reverse, hlen] at hd
    rw [Option.bind_some, Option.map_some,
      List.getElem?_reverse (by rw [List.length_zipIdx, hlen]; exact hd), List.length_zipIdx, hlen,
      List.getElem?_zipIdx, List.getElem?_eq_getElem (by omega), Nat.zero_add]
    rfl

/-- The search for the partner of a bracket is not trapped and finds what the exact search finds. -/
theorem partner?_eq_ok (short : text.length < 2 ^ 64) (o : Occurrence) :
    partner? text o = .ok (BracketCue.partner? text o) := by
  by_cases here : Occurrence.at? text o.offset = some o
  · have get := (Occurrence.at?_eq_some_iff.1 here).2
    have hi := (List.getElem?_eq_some_iff.1 get).1
    obtain ⟨i, k, side⟩ := o
    rw [partner?, BracketCue.partner?, if_neg (not_not_intro here), if_pos here]
    cases side with
    | opening =>
      dsimp only at get ⊢
      rw [walk_drop short get, ok_bind]
      cases partnerDistance ⟨k, .opening⟩ 0 (text.drop (i + 1)) with
      | none => rfl
      | some d =>
        rw [Option.map_some, Option.mapM_some, pair_of_lt (by omega)]
        rfl
    | closing =>
      dsimp only at get hi ⊢
      rw [unsigned_of_eq (m := i + 1) (by omega) (by omega), ok_bind, Nat.min_eq_left hi,
        cut_of_le hi, ok_bind, walk_take_reverse short get, ok_bind]
      split
      · next found =>
        rw [found]
        rfl
      · next d found =>
        have hd := partnerDistance_lt found
        rw [List.length_reverse, List.length_take] at hd
        simp only [found, Option.map_some, Option.mapM_some]
        rw [pair_of_lt (by omega)]
        rfl
  · rw [partner?, BracketCue.partner?, if_pos here, if_neg here]

theorem activeBracket?_eq_ok {cursor : Nat} (small : cursor < 2 ^ 64) (choice : ActiveBracket) :
    activeBracket? text cursor choice = .ok (BracketCue.activeBracket? text cursor choice) := by
  cases choice with
  | underCursor => rfl
  | leftThenUnder =>
    cases cursor with
    | zero => rfl
    | succ left =>
      rw [activeBracket?, if_pos (Nat.succ_pos left),
        unsigned_of_eq (m := left) (by omega) (by omega), BracketCue.activeBracket?]
      rfl

end

/-- The search is never trapped, whatever the text, the bracket that is asked for and the cursor, as
long as a machine can hold them: the count of open brackets is at least one wherever it goes down,
no sum exceeds a word, no text is cut behind its end, and each pair has its ends in order. It finds
what the exact search finds. -/
theorem search_never_traps (text : Text) (short : text.length < 2 ^ 64) :
    (∀ o, partner? text o = .ok (BracketCue.partner? text o)) ∧
      ∀ cursor choice, cursor < 2 ^ 64 →
        activePair? text cursor choice = .ok (BracketCue.activePair? text cursor choice) := by
  refine ⟨partner?_eq_ok short, fun cursor choice small => ?_⟩
  rw [activePair?, activeBracket?_eq_ok small, ok_bind, BracketCue.activePair?]
  cases BracketCue.activeBracket? text cursor choice with
  | none => rfl
  | some active =>
    dsimp only
    rw [partner?_eq_ok short, ok_bind, Option.bind_eq_bind, Option.bind_some]
    cases BracketCue.partner? text active <;> rfl

/-- The count of open brackets would fall below zero if the walk did not begin with its own bracket. -/
example : walk ⟨.paren, .opening⟩ 0 [(')', 3)] = .error (.noWord (-1)) := rfl

/-- A closer that nothing opens, and an opener whose partner is the bracket left of the cursor. -/
theorem search_never_traps_unbalanced :
    let text := ")(()".toList
    text.length < 2 ^ 64 ∧ 4 < 2 ^ 64 ∧
      partner? text ⟨0, .paren, .closing⟩ = .ok none ∧
      activePair? text 4 .leftThenUnder =
        .ok (some (⟨3, .paren, .closing⟩, ⟨2, 3, .paren, by decide⟩)) := by
  intro text
  have short : text.length < 2 ^ 64 := by
    have : text.length = 4 := rfl
    omega
  have small : 4 < 2 ^ 64 := by omega
  obtain ⟨partners, atCursor⟩ := search_never_traps text short
  exact ⟨short, small, partners _, atCursor 4 .leftThenUnder small⟩

end BracketCue.Machine
