import BracketCue.Bracket.Matching
import BracketCue.Highlight.Basic

/-!
# The indicator

What is highlighted on the screen while a line is edited, and what has to change when the cursor
moves. After a move the highlight depends on the text and the cursor alone, not on what was
highlighted before (`current_move`).
-/
namespace BracketCue

/-- The highlight on the screen and the settings that decide the next one. Mirrors `Tracker`. -/
structure Indicator where
  enabled : Bool
  activeBracket : ActiveBracket
  paint : Paint
  current : Option Highlight
  deriving DecidableEq, Repr

namespace Indicator

def start (enabled : Bool) (activeBracket : ActiveBracket) (paint : Paint) : Indicator :=
  ⟨enabled, activeBracket, paint, none⟩

/-- Switches highlighting on or off. The highlight on the screen stays until the next move. Mirrors
`set_enabled`. -/
def switch (i : Indicator) (on : Bool) : Indicator :=
  { i with enabled := on }

/-- The highlight that the cursor calls for. -/
def wanted (i : Indicator) (text : Text) (cursor : Nat) : Option Highlight :=
  (activePair? text cursor i.activeBracket).map fun (active, pair) => ⟨pair, active.offset⟩

/-- Whether going from one highlight to the other leaves the screen as it is. -/
def sameLook (paint : Paint) : Option Highlight → Option Highlight → Bool
  | none, none => true
  | some a, some b => a.looksLike b paint
  | _, _ => false

def clear (i : Indicator) : Indicator × Change :=
  ({ i with current := none }, ⟨i.current, none⟩)

/-- The cursor has moved to an offset of the text, or to its end. If the screen need not change, the
newest anchor is remembered all the same. Mirrors `on_cursor_move`. -/
def move (i : Indicator) (text : Text) (cursor : Nat) (_inLine : cursor ≤ text.length) :
    Indicator × Change :=
  if i.enabled then
    let next := i.wanted text cursor
    if sameLook i.paint i.current next then ({ i with current := next }, .none)
    else ({ i with current := next }, ⟨i.current, next⟩)
  else i.clear

/-- `move` for a cursor that may lie beyond the text, which is a fault. -/
def moveTo (i : Indicator) (text : Text) (cursor : Nat) : Except Fault (Indicator × Change) :=
  if h : cursor ≤ text.length then .ok (i.move text cursor h)
  else .error (.cursorOutOfRange cursor text.length)

theorem current_move (i : Indicator) {text : Text} {cursor : Nat} (h : cursor ≤ text.length) :
    (i.move text cursor h).1.current = if i.enabled then i.wanted text cursor else none := by
  by_cases on : i.enabled = true
  · simp only [move, on, if_true]
    split <;> rfl
  · simp [move, clear, on]

end Indicator
end BracketCue
