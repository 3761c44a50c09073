import BracketCue.Bracket.Basic
import BracketCue.Fault

/-!
# Occurrences and pairs

An occurrence is a bracket at an offset of a text. A pair names the two offsets of brackets that
balance each other, the opener before the closer.
-/
namespace BracketCue

/-- A bracket at an offset, meaningful only for the text it was found in. Mirrors
`BracketPosition`. -/
structure Occurrence where
  offset : Nat
  bracket : Bracket
  deriving DecidableEq, Repr

/-- The bracket of `text` at `offset`, if the character there is one. Mirrors `bracket_at`. -/
def Occurrence.at? (text : Text) (offset : Nat) : Option Occurrence := do
  let bracket ← Bracket.ofChar? (← text[offset]?)
  return ⟨offset, bracket⟩

theorem Occurrence.at?_eq_some_iff {text : Text} {offset : Nat} {o : Occurrence} :
    Occurrence.at? text offset = some o ↔
      o.offset = offset ∧ text[offset]? = some o.bracket.toChar := by
  obtain ⟨at', b⟩ := o
  cases h : text[offset]? with
  | none => simp [Occurrence.at?, h]
  | some c =>
    cases hb : Bracket.ofChar? c with
    | none =>
      simp only [Occurrence.at?, h, hb, Option.bind_eq_bind, Option.bind_some, Option.bind_none,
        reduceCtorEq, Option.some.injEq, false_iff, not_and]
      intro _ hc
      rw [Bracket.ofChar?_eq_some_iff.2 hc] at hb
      simp at hb
    | some b' =>
      have hc := Bracket.ofChar?_eq_some_iff.1 hb
      simp only [Occurrence.at?, h, hb, Option.bind_eq_bind, Option.bind_some, Option.pure_def,
        Option.some.injEq, Occurrence.mk.injEq]
      constructor
      · rintro ⟨rfl, rfl⟩
        exact ⟨rfl, hc⟩
      · rintro ⟨rfl, hb'⟩
        exact ⟨rfl, Bracket.toChar_injective (hc ▸ hb')⟩

/-- Two brackets of one family that balance each other. Mirrors `MatchedPair`. -/
structure Pair where
  opener : Nat
  closer : Nat
  family : Family
  opener_lt_closer : opener < closer
  deriving DecidableEq, Repr

namespace Pair

/-- The pair with the given ends, which must be in order. -/
def ofEnds (opener closer : Nat) (family : Family) : Except Fault Pair :=
  if h : opener < closer then .ok ⟨opener, closer, family, h⟩
  else .error (.reversedPair opener closer)

/-- The end that is not `offset`. An offset that is no end has the opener as its other end. Mirrors
`other_end`. -/
def opposite (p : Pair) (offset : Nat) : Nat :=
  if offset = p.opener then p.closer else p.opener

theorem opposite_opener (p : Pair) : p.opposite p.opener = p.closer := by
  simp [opposite]

theorem opposite_closer (p : Pair) : p.opposite p.closer = p.opener := by
  simp [opposite]

end Pair
end BracketCue
