import BracketCue.Line.Editor
import BracketCue.Proofs.Terminal.Writes

/-!
# Runs of the editor

A run presses keys and switches highlighting on and off in any order. The editor keeps one
invariant along it: what is highlighted is a pair of the text anchored at one of its ends, and
indicator and painter agree on what is painted.

* `Consistent.act`: every action keeps the invariant.
* `Consistent.repaints`: what an action erases and draws leads from the old highlight to the new.
* `run_outputs`, `writes_outputs`: the operations of a run leave the cursor in the cell of the
  editor's cursor, and write the edits of its changes.
-/
namespace BracketCue.Editor

open Terminal

inductive Action
  | press (key : Key)
  | switch (on : Bool)
  deriving DecidableEq, Repr

def act (e : Editor) : Action → Editor
  | .press key => (e.press key).1
  | .switch on => e.setHighlighting on

/-- How an action changes the highlight on the screen. -/
def changeBy (e : Editor) : Action → Change
  | .press key => (e.press key).2.change
  | .switch _ => .none

def output (e : Editor) : Action → List Op
  | .press key => (e.press key).2.ops
  | .switch _ => []

def after (e : Editor) (actions : List Action) : Editor :=
  actions.foldl act e

/-- The operations of a run, action by action. -/
def outputs (e : Editor) : List Action → List (List Op)
  | [] => []
  | a :: rest => e.output a :: (e.act a).outputs rest

theorem length_outputs (e : Editor) (actions : List Action) :
    (e.outputs actions).length = actions.length := by
  induction actions generalizing e with
  | nil => rfl
  | cons a rest ih => simp [outputs, ih]

/-- The presses of keys have the operations of the run that presses them. -/
theorem pressKeys_ops (e : Editor) (keys : List Key) :
    (e.pressKeys keys).2.map (·.ops) = e.outputs (keys.map .press) := by
  induction keys generalizing e with
  | nil => rfl
  | cons key rest ih =>
    rw [pressKeys_cons, List.map_cons, ih]
    rfl

theorem length_pressKeys (e : Editor) (keys : List Key) :
    (e.pressKeys keys).2.length = keys.length := by
  have lengths := congrArg List.length (e.pressKeys_ops keys)
  rwa [List.length_map, length_outputs, List.length_map] at lengths

def editsBy (e : Editor) (a : Action) : List Edit :=
  (e.changeBy a).edits e.painter.paint e.text

def edits (e : Editor) : List Action → List Edit
  | [] => []
  | a :: rest => e.editsBy a ++ (e.act a).edits rest

/-! ## What an action leaves alone -/

theorem act_text (e : Editor) (a : Action) : (e.act a).text = e.text := by
  cases a <;> rfl

theorem act_screen (e : Editor) (a : Action) : (e.act a).screen = e.screen := by
  cases a <;> rfl

theorem act_painter (e : Editor) (a : Action) : (e.act a).painter = e.painter := by
  cases a <;> rfl

theorem act_cellOf (e : Editor) (a : Action) (o : Nat) : (e.act a).cellOf o = e.cellOf o := by
  rw [cellOf, cellOf, act_text, act_screen]

theorem after_append (e : Editor) (first second : List Action) :
    e.after (first ++ second) = (e.after first).after second :=
  List.foldl_append

/-- What every action leaves alone, a run leaves alone. -/
theorem after_frame {α : Type} (f : Editor → α) (h : ∀ e a, f (e.act a) = f e) (e : Editor)
    (actions : List Action) : f (e.after actions) = f e := by
  induction actions generalizing e with
  | nil => rfl
  | cons a rest ih => exact (ih (e.act a)).trans (h e a)

theorem after_text (e : Editor) (actions : List Action) : (e.after actions).text = e.text :=
  after_frame (·.text) act_text e actions

theorem after_screen (e : Editor) (actions : List Action) : (e.after actions).screen = e.screen :=
  after_frame (·.screen) act_screen e actions

theorem after_painter (e : Editor) (actions : List Action) :
    (e.after actions).painter = e.painter :=
  after_frame (·.painter) act_painter e actions

theorem after_cellOf (e : Editor) (actions : List Action) (o : Nat) :
    (e.after actions).cellOf o = e.cellOf o :=
  after_frame (·.cellOf o) (fun e a => act_cellOf e a o) e actions

/-! ## The invariant -/

/-- The highlight is one that the text calls for, and the indicator knows how it is painted. -/
structure Consistent (e : Editor) : Prop where
  paint_eq : e.indicator.paint = e.painter.paint
  valid : ValidIn e.text e.highlight?

theorem consistent_start (text : Text) (screen : Screen) (settings : Settings) :
    (start text screen settings).Consistent :=
  ⟨rfl, fun _ h => by cases h⟩

/-- A key changes what is highlighted and nothing else of the indicator. -/
theorem follow_state (e : Editor) (key : Key) :
    ∃ next, (e.follow key).1 = { e.indicator with current := next } := by
  unfold follow Indicator.move
  split
  · exact ⟨none, rfl⟩
  · split
    · dsimp only
      split <;> exact ⟨_, rfl⟩
    · exact ⟨none, rfl⟩

theorem follow_paint (e : Editor) (key : Key) : (e.follow key).1.paint = e.indicator.paint := by
  obtain ⟨next, state⟩ := e.follow_state key
  rw [state]

theorem follow_enabled (e : Editor) (key : Key) :
    (e.follow key).1.enabled = e.indicator.enabled := by
  obtain ⟨next, state⟩ := e.follow_state key
  rw [state]

theorem validIn_follow (e : Editor) (key : Key) : ValidIn e.text (e.follow key).1.current := by
  unfold follow
  split
  · intro _ h; cases h
  · exact e.indicator.validIn_move _

theorem Consistent.act {e : Editor} (h : e.Consistent) (a : Action) : (e.act a).Consistent := by
  cases a with
  | press key => exact ⟨(e.follow_paint key).trans h.paint_eq, e.validIn_follow key⟩
  | switch on => exact ⟨h.paint_eq, h.valid⟩

theorem Consistent.after {e : Editor} (h : e.Consistent) (actions : List Action) :
    (e.after actions).Consistent := by
  induction actions generalizing e with
  | nil => exact h
  | cons a rest ih => exact ih (h.act a)

theorem Consistent.repaints {e : Editor} (h : e.Consistent) (a : Action) :
    Repaints e.painter.paint e.highlight? (e.act a).highlight? (e.changeBy a) := by
  cases a with
  | press key =>
    rw [← h.paint_eq]
    show Repaints _ e.indicator.current (e.follow key).1.current (e.follow key).2
    unfold follow
    split
    · exact e.indicator.repaints_clear
    · exact e.indicator.repaints_move h.valid _
  | switch on => exact .keep rfl

/-! ## Operations of a run -/

section
variable {e : Editor} {look : Place → Place} {c : Cursor}

theorem run_output (follows : Follows look e.screen e.text)
    (h : look c.place = (e.cellOf e.cursor).place) (a : Action) :
    look (c.run (e.output a)).place = (e.cellOf (e.act a).cursor).place := by
  cases a with
  | press key => exact e.painter.run_ops follows h _ _
  | switch on => exact h

theorem writes_output (follows : Follows look e.screen e.text)
    (h : look c.place = (e.cellOf e.cursor).place) (a : Action) :
    (c.writes (e.output a)).map (·.seen look) = (e.editsBy a).map (·.write e.screen e.text) := by
  cases a with
  | press key => exact e.painter.writes_ops follows h _ _
  | switch on => rfl

/-- The operations of a run leave the cursor in the cell of the editor's cursor. -/
theorem run_outputs (follows : Follows look e.screen e.text)
    (h : look c.place = (e.cellOf e.cursor).place) (actions : List Action) :
    look (c.run (e.outputs actions).flatten).place =
      (e.cellOf (e.after actions).cursor).place := by
  induction actions generalizing e c with
  | nil => exact h
  | cons a rest ih =>
    have there := run_output follows h a
    have follows' : Follows look (e.act a).screen (e.act a).text := by rwa [act_screen, act_text]
    rw [← e.act_cellOf a] at there
    have := ih follows' there
    rw [act_cellOf] at this
    rw [outputs, List.flatten_cons, Cursor.run_append, this]
    rfl

/-- The operations of a run write its edits and nothing else. -/
theorem writes_outputs (follows : Follows look e.screen e.text)
    (h : look c.place = (e.cellOf e.cursor).place) (actions : List Action) :
    (c.writes (e.outputs actions).flatten).map (·.seen look) =
      (e.edits actions).map (·.write e.screen e.text) := by
  induction actions generalizing e c with
  | nil => rfl
  | cons a rest ih =>
    have there := run_output follows h a
    have follows' : Follows look (e.act a).screen (e.act a).text := by rwa [act_screen, act_text]
    rw [← e.act_cellOf a] at there
    have := ih follows' there
    rw [act_screen, act_text] at this
    rw [outputs, List.flatten_cons, Cursor.writes_append, List.map_append, writes_output follows h,
      this, edits, List.map_append]

end

end BracketCue.Editor
