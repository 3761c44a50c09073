import BracketCue.Bracket.Pair

/-!
# Highlights and changes

A highlight is a matched pair with the end that the cursor was on. What it paints depends on the
paint mode: both ends, or only the partner of the anchor. A change is what happens to the
highlight on the screen: one is erased, then another is drawn.
-/
namespace BracketCue

/-- Which ends of a pair are painted. -/
inductive Paint
  | both
  /-- Only the end that the cursor is not on. -/
  | partner
  deriving DecidableEq, Repr

/-- A matched pair and the offset of the bracket that the cursor selected. -/
structure Highlight where
  pair : Pair
  anchor : Nat
  deriving DecidableEq, Repr

namespace Highlight

/-- The offsets painted for a highlight, in the order in which they are written. Mirrors `cells`. -/
def offsets (h : Highlight) : Paint → List Nat
  | .both => [h.pair.opener, h.pair.closer]
  | .partner => [h.pair.opposite h.anchor]

/-- Whether replacing one highlight by the other leaves the screen as it is. Mirrors
`renders_same`. -/
def looksLike (h other : Highlight) : Paint → Bool
  | .both => h.pair = other.pair
  | .partner => h = other

end Highlight

/-- What happens to the highlight when the cursor moves: `erased` is taken away before `drawn` is
painted. Mirrors `Transition`. -/
structure Change where
  erased : Option Highlight
  drawn : Option Highlight
  deriving DecidableEq, Repr

namespace Change

def none : Change :=
  ⟨Option.none, Option.none⟩

def isEmpty (c : Change) : Bool :=
  c.erased.isNone && c.drawn.isNone

def pairs (c : Change) : Option Pair × Option Pair :=
  (c.erased.map (·.pair), c.drawn.map (·.pair))

end Change
end BracketCue
