import BracketCue.Proofs.Line.Run
import BracketCue.Proofs.Terminal.Frame

/-!
# Runs on a terminal with edges

What a run sends is tame, so a terminal that has edges, defers wrapping and keeps one place only
does with it what the model cursor says.

* `Editor.tame_outputs`: the operations of a run are tame, and keep nothing when it is over.
* `framed_run_faithful`: the same cell for every character written and the same cursor after every
  key, and the model cursor inside the edges all the way.
-/
namespace BracketCue

open Terminal

/-- The operations of a move of the cursor leave nothing kept that was not kept before. -/
theorem Painter.saved_ops (p : Painter) (c : Cursor) (screen : Screen) (text : Text)
    (change : Change) (before after : Nat) :
    (c.run (p.ops screen text change before after)).saved = c.saved := by
  obtain ⟨rows, cols, hrun, -, -⟩ := run_approach .relative (screen.cellOf text.length before)
    (screen.cellOf text.length after) c
  rw [ops_eq, Cursor.run_append, run_flatMap_blockOf]
  exact (congrArg Cursor.saved hrun).trans rfl

namespace Editor

variable {e : Editor} {c : Cursor}

theorem tame_output (fits : e.screen.Fits e.text) (here : c.place = (e.cellOf e.cursor).place)
    (a : Action) : Tame (e.screen.frame e.text.length) .home c (e.output a) .home := by
  cases a with
  | press key => exact e.painter.tame_ops fits (here.trans (fits.small _).point_eq.symm) _ _
  | switch on => exact .nil

theorem tame_outputs (fits : e.screen.Fits e.text) (here : c.place = (e.cellOf e.cursor).place)
    (actions : List Action) :
    Tame (e.screen.frame e.text.length) .home c (e.outputs actions).flatten .home := by
  induction actions generalizing e c with
  | nil => exact .nil
  | cons a rest ih =>
    have there := run_output (.exact fits) here a
    rw [← e.act_cellOf a] at there
    have fits' : (e.act a).screen.Fits (e.act a).text := by rwa [act_screen, act_text]
    have := ih fits' there
    rw [act_screen, act_text] at this
    rw [outputs, List.flatten_cons]
    exact (tame_output fits here a).append this

theorem saved_outputs (e : Editor) (c : Cursor) (actions : List Action) :
    (c.run (e.outputs actions).flatten).saved = c.saved := by
  induction actions generalizing e c with
  | nil => rfl
  | cons a rest ih =>
    rw [outputs, List.flatten_cons, Cursor.run_append, ih]
    cases a with
    | press key => exact e.painter.saved_ops c _ _ _ _ _
    | switch on => rfl

/-- A run takes the model cursor, with nothing kept, from the cell of the editor's cursor to its
cell afterwards. -/
theorem run_outputs_eq_start (fits : e.screen.Fits e.text) (actions : List Action) :
    (Cursor.start (e.cellOf e.cursor)).run (e.outputs actions).flatten =
      .start (e.cellOf (e.after actions).cursor) := by
  have place := run_outputs (.exact fits) (c := .start (e.cellOf e.cursor)) rfl actions
  have saved := e.saved_outputs (.start (e.cellOf e.cursor)) actions
  generalize (Cursor.start (e.cellOf e.cursor)).run (e.outputs actions).flatten = c at place saved
  obtain ⟨at', kept⟩ := c
  cases saved
  exact congrArg (Cursor.mk · []) place

end Editor

/-- Any run, on a terminal that has the columns of the screen and the rows of the line, that stops
the cursor at its edges and in its last column, and that keeps one place only. It writes every
character in the cell where the model cursor would, and after every key the cursor is where the
model cursor is, in the cell of the editor's cursor, with nothing kept. On the way the model cursor
never leaves the edges, but for the column past a character just written, so that reading off its
cell cuts nothing off. -/
theorem framed_run_faithful (text : Text) (screen : Screen) (settings : Settings)
    (actions : List Editor.Action) (kept : Cell) (fits : screen.Fits text) :
    let e := Editor.start text screen settings
    let frame := screen.frame text.length
    let home := screen.cellOf text.length text.length
    let ops := (e.outputs actions).flatten
    frame.writes ⟨home, kept⟩ ops = (Cursor.start home).writes ops ∧
    (∀ n,
      let ops := (e.outputs (actions.take n)).flatten
      let there := screen.cellOf text.length (e.after (actions.take n)).cursor
      (frame.run ⟨home, kept⟩ ops).cell = there ∧ landing ops home = there ∧
        (Cursor.start home).run ops = .start there) ∧
    ∀ n op, ops[n]? = some op →
      let c := (Cursor.start home).run (ops.take (n + 1))
      frame.Admits op c.place ∧ c.cell.point = c.place := by
  intro e frame home ops
  have agrees : Agrees frame .home (.start home) ⟨home, kept⟩ :=
    ⟨fun _ => ⟨(fits.small _).point_eq.symm, screen.frame_holds ..⟩, fun h => absurd rfl h⟩
  have begins : (Cursor.start home).place = (e.cellOf e.cursor).place :=
    congrArg Cell.place (show home = e.cellOf e.cursor from rfl)
  have tame : ∀ actions, Tame frame .home (.start home) (e.outputs actions).flatten .home :=
    fun actions => Editor.tame_outputs (e := e) fits begins actions
  refine ⟨((tame actions).run agrees).2, fun n => ?_, fun n op hn => ?_⟩
  · intro ops there
    have run : (Cursor.start home).run ops = .start there :=
      Editor.run_outputs_eq_start (e := e) fits (actions.take n)
    have small : there.Small := fits.small _
    have there_point : (Cursor.start there).place = there.point := small.point_eq.symm
    have here := ((tame (actions.take n)).run agrees).1.here nofun
    rw [run, there_point, Cell.point_inj] at here
    refine ⟨here.1.symm, ?_, run⟩
    rw [landing, run, small.cell_start]
  · intro c
    have admits := (tame actions).admits hn
    exact ⟨admits, admits.point_cell⟩

/-- On a screen of one column every cell is in the last one, and the step back goes nowhere. -/
theorem framed_run_faithful_one_column :
    let text := "()".toList
    let screen : Screen := ⟨1, 1, by decide⟩
    let actions : List Editor.Action := [.press .left, .press .enter]
    let ops := ((Editor.start text screen .standard).outputs actions).flatten
    let frame := screen.frame text.length
    let start : Pointer := ⟨⟨3, 0⟩, ⟨0, 0⟩⟩
    screen.Fits text ∧
      frame.writes start ops =
        [⟨⟨1, 0⟩, '(', true⟩, ⟨⟨2, 0⟩, ')', true⟩, ⟨⟨1, 0⟩, '(', false⟩, ⟨⟨2, 0⟩, ')', false⟩] ∧
      (frame.run start ops).cell = ⟨3, 0⟩ := by
  intro text screen actions ops frame start
  have fits : screen.Fits text := by decide
  have home : screen.cellOf text.length text.length = start.cell := by decide
  have done : screen.cellOf text.length
      ((Editor.start text screen .standard).after actions).cursor = start.cell := by decide
  have faithful := framed_run_faithful text screen .standard actions ⟨0, 0⟩ fits
  rw [home] at faithful
  have model : (Cursor.start start.cell).writes ops =
      [⟨⟨1, 0⟩, '(', true⟩, ⟨⟨2, 0⟩, ')', true⟩, ⟨⟨1, 0⟩, '(', false⟩, ⟨⟨2, 0⟩, ')', false⟩] := by
    decide
  exact ⟨fits, faithful.1.trans model, (faithful.2.1 2).1.trans done⟩

end BracketCue
