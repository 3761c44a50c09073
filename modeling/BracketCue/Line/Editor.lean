import BracketCue.Highlight.Indicator
import BracketCue.Line.Key
import BracketCue.Settings.Basic

/-!
# The editor

One line being edited: the text, the cursor, and what is highlighted on the screen. A key press
moves the cursor and yields the operations that bring the screen up to date. The cursor never
leaves the line, which is part of the type. Keys are pressed one after the other
(`pressKeys_cons`).
-/
namespace BracketCue

/-- The state of an edited line. Mirrors `Session`. -/
structure Editor where
  text : Text
  cursor : Nat
  screen : Screen
  indicator : Indicator
  painter : Painter
  cursor_le : cursor ≤ text.length

/-- What a key press did: the cursor before and after it, how the highlight changed, and the
operations for the terminal. -/
structure Press where
  before : Nat
  after : Nat
  change : Change
  ops : List Terminal.Op
  deriving DecidableEq, Repr

namespace Editor

/-- An editor for a text as just typed, the cursor at its end. -/
def start (text : Text) (screen : Screen) (settings : Settings) : Editor where
  text := text
  cursor := text.length
  screen := screen
  indicator := .start settings.enabled settings.activeBracket settings.paint
  painter := ⟨settings.paint, settings.moveStyle⟩
  cursor_le := Nat.le_refl _

/-- What is highlighted on the screen. Mirrors `highlighted`. -/
def highlight? (e : Editor) : Option Highlight :=
  e.indicator.current

/-- Switches highlighting on or off; the screen follows at the next key. Mirrors `set_enabled`. -/
def setHighlighting (e : Editor) (on : Bool) : Editor :=
  { e with indicator := e.indicator.switch on }

def cellOf (e : Editor) (offset : Nat) : Cell :=
  e.screen.cellOf e.text.length offset

/-- How the indicator follows a key: accepting the line clears it, every other key moves it. -/
def follow (e : Editor) (key : Key) : Indicator × Change :=
  if key = .enter then e.indicator.clear
  else e.indicator.move e.text (key.target e.text.length e.cursor) (key.target_le e.cursor_le)

/-- Presses a key. -/
def press (e : Editor) (key : Key) : Editor × Press :=
  let after := key.target e.text.length e.cursor
  let (indicator, change) := e.follow key
  ({ e with cursor := after, indicator := indicator, cursor_le := key.target_le e.cursor_le },
   ⟨e.cursor, after, change, e.painter.ops e.screen e.text change e.cursor after⟩)

/-- Presses a key, adding what it did in front of what the keys before it did. -/
def pressOnto (state : Editor × List Press) (key : Key) : Editor × List Press :=
  let (e, p) := state.1.press key
  (e, p :: state.2)

/-- Presses keys in order. Mirrors `press_all`. -/
def pressKeys (e : Editor) (keys : List Key) : Editor × List Press :=
  let (e, presses) := keys.foldl pressOnto (e, [])
  (e, presses.reverse)

theorem foldl_pressOnto (keys : List Key) (e : Editor) (done : List Press) :
    keys.foldl pressOnto (e, done) =
      ((keys.foldl pressOnto (e, [])).1, (keys.foldl pressOnto (e, [])).2 ++ done) := by
  induction keys generalizing e done with
  | nil => rfl
  | cons key rest ih =>
    simp only [List.foldl_cons, pressOnto]
    rw [ih, ih _ [_]]
    simp

theorem pressKeys_cons (e : Editor) (key : Key) (rest : List Key) :
    e.pressKeys (key :: rest) =
      (((e.press key).1.pressKeys rest).1,
        (e.press key).2 :: ((e.press key).1.pressKeys rest).2) := by
  simp only [pressKeys, List.foldl_cons, pressOnto]
  rw [foldl_pressOnto]
  simp

end Editor

def Press.allOps (presses : List Press) : List Terminal.Op :=
  presses.flatMap (·.ops)

end BracketCue
