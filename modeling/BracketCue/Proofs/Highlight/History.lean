import BracketCue.Proofs.Highlight.Painted
import Mathlib.Data.Finset.Dedup
import Mathlib.Data.Finset.SDiff

/-!
# Histories of an indicator

An indicator follows a cursor through texts that need have nothing to do with each other, is
switched on and off, and is cleared, in any order. However it came to be as it is, two things hold.
What is highlighted after a move depends on that move alone. And the changes it answers are a true
account: whoever starts with a blank canvas and carries out each change on it has the offsets of the
present highlight on it, although the erased highlight may have another anchor than the one once
drawn.

* `current_move_history`: a move forgets what was before it, and has nothing to do when it is
  repeated.
* `Exchange.onto_painted`: one change on the canvas.
* `canvas_history`: the canvas after any history, and what each further change finds on it.
-/
namespace BracketCue

/-! ## The canvas -/

/-- The canvas once the erased highlight is taken off. -/
def Change.wipe (change : Change) (paint : Paint) (canvas : Finset Nat) : Finset Nat :=
  canvas \ (painted paint change.erased).toFinset

/-- The canvas after a change. -/
def Change.onto (change : Change) (paint : Paint) (canvas : Finset Nat) : Finset Nat :=
  change.wipe paint canvas ∪ (painted paint change.drawn).toFinset

/-- What changes leave on a canvas that was blank. -/
def canvasOf (paint : Paint) (changes : List Change) : Finset Nat :=
  changes.foldl (fun canvas change => change.onto paint canvas) ∅

/-- How a change leads from one highlight to the next, whatever the texts they belong to: nothing is
done and the painted offsets are the same, or the one is erased and the other drawn, and the two do
not look alike. -/
inductive Exchange (paint : Paint) (before after : Option Highlight) : Change → Prop
  | keep (same : painted paint before = painted paint after) : Exchange paint before after .none
  | replace (differ : ∀ b a, before = some b → after = some a → b.looksLike a paint = false) :
      Exchange paint before after ⟨before, after⟩

namespace Exchange

variable {paint : Paint} {before after : Option Highlight} {change : Change}

theorem onto_painted (x : Exchange paint before after change) :
    change.onto paint (painted paint before).toFinset = (painted paint after).toFinset := by
  cases x with
  | keep same =>
    rw [same]
    simp [Change.onto, Change.wipe, Change.none, painted]
  | replace differ => simp [Change.onto, Change.wipe]

theorem erased_subset (x : Exchange paint before after change) {o : Nat}
    (ho : o ∈ painted paint change.erased) : o ∈ painted paint before := by
  cases x with
  | keep same => cases ho
  | replace differ => exact ho

theorem wipe_eq_empty (x : Exchange paint before after change) (h : change ≠ .none) :
    change.wipe paint (painted paint before).toFinset = ∅ := by
  cases x with
  | keep same => exact absurd rfl h
  | replace differ => exact Finset.sdiff_self _

theorem not_looksLike (x : Exchange paint before after change) {erased drawn : Highlight}
    (he : change.erased = some erased) (hd : change.drawn = some drawn) :
    erased.looksLike drawn paint = false := by
  cases x with
  | keep same => cases he
  | replace differ => exact differ _ _ he hd

end Exchange

namespace Indicator

/-! ## Events -/

/-- Something that happens to an indicator. Every move may be one in another text. -/
inductive Event
  | move (text : Text) (cursor : Nat) (inLine : cursor ≤ text.length)
  | switch (on : Bool)
  | clear

/-- The indicator after an event, and the change that it answers. -/
def react (i : Indicator) : Event → Indicator × Change
  | .move text cursor inLine => i.move text cursor inLine
  | .switch on => (i.switch on, .none)
  | .clear => i.clear

def after (i : Indicator) (history : List Event) : Indicator :=
  history.foldl (fun i event => (i.react event).1) i

def changes (i : Indicator) : List Event → List Change
  | [] => []
  | event :: rest => (i.react event).2 :: (i.react event).1.changes rest

variable {text : Text} {cursor : Nat}

theorem move_state (i : Indicator) (h : cursor ≤ text.length) :
    (i.move text cursor h).1 =
      { i with current := if i.enabled then i.wanted text cursor else none } := by
  by_cases on : i.enabled = true
  · simp only [move, on, if_true]
    split <;> simp
  · simp [move, clear, on]

theorem react_paint (i : Indicator) (event : Event) : (i.react event).1.paint = i.paint := by
  cases event with
  | move text cursor inLine => rw [react, move_state]
  | switch on => rfl
  | clear => rfl

theorem react_activeBracket (i : Indicator) (event : Event) :
    (i.react event).1.activeBracket = i.activeBracket := by
  cases event with
  | move text cursor inLine => rw [react, move_state]
  | switch on => rfl
  | clear => rfl

theorem after_paint (i : Indicator) (history : List Event) : (i.after history).paint = i.paint := by
  induction history generalizing i with
  | nil => rfl
  | cons event rest ih => exact (ih _).trans (i.react_paint event)

theorem after_activeBracket (i : Indicator) (history : List Event) :
    (i.after history).activeBracket = i.activeBracket := by
  induction history generalizing i with
  | nil => rfl
  | cons event rest ih => exact (ih _).trans (i.react_activeBracket event)

/-! ## What a move forgets -/

theorem sameLook_self (paint : Paint) (h : Option Highlight) : sameLook paint h h = true := by
  cases h with
  | none => rfl
  | some h => cases paint <;> simp [sameLook, Highlight.looksLike]

/-- A move has nothing to do when what it calls for is highlighted already. -/
theorem move_of_settled (i : Indicator) (h : cursor ≤ text.length)
    (settled : i.current = if i.enabled then i.wanted text cursor else none) :
    i.move text cursor h = (i, .none) := by
  by_cases on : i.enabled = true
  · rw [if_pos on] at settled
    rw [move, if_pos on]
    dsimp only
    rw [← settled, if_pos (sameLook_self i.paint i.current)]
  · rw [if_neg on] at settled
    rw [move, if_neg on, clear, settled, Change.none, ← settled]

theorem move_again (i : Indicator) (h : cursor ≤ text.length) :
    (i.move text cursor h).1.move text cursor h = ((i.move text cursor h).1, .none) := by
  rw [move_state]
  exact move_of_settled _ h rfl

/-- After any history a move leaves highlighted what its text and cursor call for, nothing if
highlighting is off. So indicators of different histories that are both on or both off highlight the
same after the same move. Repeating the move changes nothing. -/
theorem current_move_history (choice : ActiveBracket) (on : Bool) (paint : Paint)
    (history : List Event) (text : Text) (cursor : Nat) (inLine : cursor ≤ text.length) :
    let i := (start on choice paint).after history
    let moved := (i.move text cursor inLine).1
    (moved.current =
      if i.enabled then
        (activePair? text cursor choice).map fun (active, pair) => ⟨pair, active.offset⟩
      else none) ∧
    (∀ on' paint' history',
      let j := (start on' choice paint').after history'
      j.enabled = i.enabled → (j.move text cursor inLine).1.current = moved.current) ∧
    moved.move text cursor inLine = (moved, .none) := by
  have current : ∀ on paint history,
      let i := (start on choice paint).after history
      (i.move text cursor inLine).1.current =
        if i.enabled then
          (activePair? text cursor choice).map fun (active, pair) => ⟨pair, active.offset⟩
        else none := by
    intro on paint history i
    have chosen : i.activeBracket = choice := after_activeBracket _ history
    rw [current_move, wanted, chosen]
  intro i moved
  refine ⟨current on paint history, fun on' paint' history' => ?_, i.move_again inLine⟩
  intro j same
  rw [show moved.current = _ from current on paint history, ← same]
  exact current on' paint' history'

/-- The same move after a history in another text and after none. -/
theorem current_move_history_two_texts :
    let history : List Event := [.move "()".toList 1 (by decide), .switch false, .switch true]
    let i := (start true .underCursor .both).after history
    let j := (start true .underCursor .partner).after []
    let moved := (i.move "[a]".toList 2 (by decide)).1
    j.enabled = i.enabled ∧ moved.current = some ⟨⟨0, 2, .square, by decide⟩, 2⟩ ∧
      (j.move "[a]".toList 2 (by decide)).1.current = moved.current := by
  intro history i j moved
  have both : j.enabled = i.enabled := rfl
  have forgets := current_move_history .underCursor true .both history "[a]".toList 2 (by decide)
  exact ⟨both, forgets.1.trans (by decide), forgets.2.1 true .partner [] both⟩

/-! ## The account of a history -/

theorem exchange_clear (i : Indicator) :
    Exchange i.paint i.current i.clear.1.current i.clear.2 :=
  .replace fun _ _ _ ha => by cases ha

theorem exchange_move (i : Indicator) (h : cursor ≤ text.length) :
    Exchange i.paint i.current (i.move text cursor h).1.current (i.move text cursor h).2 := by
  by_cases on : i.enabled = true
  · simp only [move, on, if_true]
    split
    · next same => exact .keep (painted_eq_of_sameLook same)
    · next differ =>
      refine .replace fun b a hb ha => Bool.eq_false_iff.2 fun same => differ ?_
      rw [hb, show i.wanted text cursor = some a from ha]
      exact same
  · simp only [move, on]
    exact i.exchange_clear

theorem exchange_react (i : Indicator) (event : Event) :
    Exchange i.paint i.current (i.react event).1.current (i.react event).2 := by
  cases event with
  | move text cursor inLine => exact i.exchange_move inLine
  | switch on => exact .keep rfl
  | clear => exact i.exchange_clear

theorem foldl_onto_changes (i : Indicator) (history : List Event) :
    (i.changes history).foldl (fun canvas change => change.onto i.paint canvas)
        (painted i.paint i.current).toFinset =
      (painted i.paint (i.after history).current).toFinset := by
  induction history generalizing i with
  | nil => rfl
  | cons event rest ih =>
    have := ih (i.react event).1
    rw [react_paint] at this
    rw [changes, List.foldl_cons, (i.exchange_react event).onto_painted, this]
    rfl

/-- Carrying out the changes of any history on a blank canvas leaves the offsets of the present
highlight on it. Each further change finds there all it erases; if it is not empty, nothing is left
once that is erased; and it never erases a highlight to draw one that looks the same. -/
theorem canvas_history (on : Bool) (choice : ActiveBracket) (paint : Paint)
    (history : List Event) :
    let i := (start on choice paint).after history
    let canvas := canvasOf paint ((start on choice paint).changes history)
    canvas = (painted paint i.current).toFinset ∧
    ∀ event,
      let change := (i.react event).2
      (∀ o ∈ painted paint change.erased, o ∈ canvas) ∧
      (change ≠ .none → change.wipe paint canvas = ∅) ∧
      ∀ erased drawn, change.erased = some erased → change.drawn = some drawn →
        erased.looksLike drawn paint = false := by
  intro i canvas
  have account : canvas = (painted paint i.current).toFinset :=
    foldl_onto_changes (start on choice paint) history
  have painter : i.paint = paint := after_paint _ history
  refine ⟨account, fun event => ?_⟩
  have exchange := i.exchange_react event
  rw [painter] at exchange
  rw [account]
  refine ⟨fun o ho => List.mem_toFinset.2 (exchange.erased_subset ho), exchange.wipe_eq_empty,
    fun _ _ => exchange.not_looksLike⟩

end Indicator
end BracketCue
