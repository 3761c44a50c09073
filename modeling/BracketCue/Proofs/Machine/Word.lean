import BracketCue.Bracket.Pair
import Mathlib.Algebra.Group.Int.Defs
import Mathlib.Algebra.Group.Nat.Defs

/-!
# Machine words

A machine computes in words of 64 bits. What does not fit a word is not a result: an operation whose
exact result is no word of its kind is trapped here, and so are a cut behind the end of a text and a
pair whose ends are not in order. A computation that is never trapped is the exact computation.
-/
namespace BracketCue.Machine

/-- Why a computation is stopped. -/
inductive Trap
  /-- A result that is no word of the kind asked for. -/
  | noWord (result : Int)
  /-- A text of the given length is cut behind its end. -/
  | outOfBounds (stop length : Nat)
  /-- A value of the domain cannot be built. -/
  | fault (cause : Fault)
  deriving DecidableEq, Repr

def unsigned (n : Int) : Except Trap Nat :=
  if 0 ≤ n ∧ n < 2 ^ 64 then .ok n.toNat else .error (.noWord n)

def signedWord (n : Int) : Except Trap Int :=
  if -2 ^ 63 ≤ n ∧ n < 2 ^ 63 then .ok n else .error (.noWord n)

def cut (text : Text) (stop : Nat) : Except Trap Text :=
  if stop ≤ text.length then .ok (text.take stop) else .error (.outOfBounds stop text.length)

def pair (opener closer : Nat) (family : Family) : Except Trap Pair :=
  (Pair.ofEnds opener closer family).mapError .fault

theorem ok_bind {α β : Type} (a : α) (f : α → Except Trap β) : Except.ok a >>= f = f a :=
  rfl

theorem unsigned_of_eq {n : Int} {m : Nat} (h : n = m) (lt : m < 2 ^ 64) : unsigned n = .ok m := by
  subst h
  exact if_pos ⟨by omega, by omega⟩

theorem signedWord_of_lt {n : Int} (ge : -2 ^ 63 ≤ n) (lt : n < 2 ^ 63) : signedWord n = .ok n :=
  if_pos ⟨ge, lt⟩

theorem cut_of_le {text : Text} {stop : Nat} (h : stop ≤ text.length) :
    cut text stop = .ok (text.take stop) :=
  if_pos h

theorem pair_of_lt {opener closer : Nat} (h : opener < closer) (family : Family) :
    pair opener closer family = .ok ⟨opener, closer, family, h⟩ := by
  rw [pair, Pair.ofEnds, dif_pos h]
  rfl

end BracketCue.Machine
