import BracketCue.Bracket.Pair

/-!
# Matching

Which bracket a cursor selects, and where the partner of a bracket stands.

The partner is found by walking away from the bracket, to the right from an opener and to the
left from a closer. Only brackets of the same family count: one that looks like the bracket itself
needs a partner of its own first, and one on the other side answers the innermost bracket still
open. The bracket that is met when none is open is the partner. Brackets of other families and
all other characters are passed over, so in `([)]` both pairs are found.

* `partnerDistance_lt`: the partner is one of the characters walked over, hence a pair found is
  always in order.
-/
namespace BracketCue

/-- Which bracket a cursor selects. Mirrors `ActivePolicy`. -/
inductive ActiveBracket
  /-- The one at the cursor. -/
  | underCursor
  /-- The one left of the cursor, or else the one at it. -/
  | leftThenUnder
  deriving DecidableEq, Repr

/-- The bracket that the cursor selects, if any. Mirrors `find_active`. -/
def activeBracket? (text : Text) (cursor : Nat) : ActiveBracket → Option Occurrence
  | .underCursor => Occurrence.at? text cursor
  | .leftThenUnder =>
    match cursor with
    | 0 => Occurrence.at? text 0
    | left + 1 => (Occurrence.at? text left).orElse fun _ => Occurrence.at? text (left + 1)

/-- How many characters lie between a bracket `b` and its partner, in a walk away from `b` on
which `inner` brackets like `b` have been met and not yet been answered. -/
def partnerDistance (b : Bracket) (inner : Nat) : Text → Option Nat
  | [] => none
  | c :: rest =>
    if c = b.toChar then (partnerDistance b (inner + 1) rest).map (· + 1)
    else if c = b.mate.toChar then
      match inner with
      | 0 => some 0
      | inner + 1 => (partnerDistance b inner rest).map (· + 1)
    else (partnerDistance b inner rest).map (· + 1)

theorem partnerDistance_lt {b : Bracket} {inner d : Nat} {walk : Text}
    (h : partnerDistance b inner walk = some d) : d < walk.length := by
  induction walk generalizing inner d with
  | nil => simp [partnerDistance] at h
  | cons c rest ih =>
    have step : ∀ inner', (partnerDistance b inner' rest).map (· + 1) = some d →
        d < (c :: rest).length := by
      intro inner' h
      obtain ⟨d', hd', rfl⟩ := Option.map_eq_some_iff.1 h
      have := ih hd'
      simp only [List.length_cons]; omega
    unfold partnerDistance at h
    split at h
    · exact step _ h
    · split at h
      · split at h
        · cases h; simp
        · exact step _ h
      · exact step _ h

/-- The pair of the bracket `o` of `text`. There is none if `o` does not describe the text. Mirrors
`find_partner`. -/
def partner? (text : Text) (o : Occurrence) : Option Pair :=
  if Occurrence.at? text o.offset = some o then
    match o.bracket.side with
    | .opening =>
      (partnerDistance o.bracket 0 (text.drop (o.offset + 1))).map fun d =>
        ⟨o.offset, o.offset + 1 + d, o.bracket.family, by omega⟩
    | .closing =>
      match h : partnerDistance o.bracket 0 (text.take o.offset).reverse with
      | none => none
      | some d =>
        some ⟨o.offset - 1 - d, o.offset, o.bracket.family, by
          have := partnerDistance_lt h
          simp only [List.length_reverse, List.length_take] at this
          omega⟩
  else none

/-- The active bracket at the cursor together with its pair. Mirrors `match_at`. -/
def activePair? (text : Text) (cursor : Nat) (choice : ActiveBracket) :
    Option (Occurrence × Pair) := do
  let active ← activeBracket? text cursor choice
  let pair ← partner? text active
  return (active, pair)

end BracketCue
