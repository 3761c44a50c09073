import BracketCue.Text.Basic

/-!
# Keys

The keys that move the cursor of an edited line, and where each of them takes it.
-/
namespace BracketCue

/-- A key that moves the cursor. -/
inductive Key
  | left
  | right
  | home
  | end
  /-- Accepts the line: goes to its end and takes the highlight away. -/
  | enter
  deriving DecidableEq, Repr

namespace Key

def names : List (Text × Key) :=
  [("left".toList, .left), ("right".toList, .right), ("home".toList, .home), ("end".toList, .end),
   ("enter".toList, .enter)]

/-- The key of a name in small letters. -/
def ofName? (name : Text) : Option Key :=
  names.lookup name

/-- Where the key takes the cursor on a line of the given length. -/
def target (key : Key) (length cursor : Nat) : Nat :=
  match key with
  | .left => cursor - 1
  | .right => min (cursor + 1) length
  | .home => 0
  | .end | .enter => length

theorem target_le (key : Key) {length cursor : Nat} (h : cursor ≤ length) :
    key.target length cursor ≤ length := by
  cases key <;> simp only [target] <;> omega

end Key
end BracketCue
