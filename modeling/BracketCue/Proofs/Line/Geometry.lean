import BracketCue.Proofs.Line.Repaint

/-!
# Edits whatever the geometry

The screen and the style of the moves decide how the cursor travels and in which cells characters
are written. Which characters of the text they are, and whether they are lit, is none of their
business: a place is read back as an offset of the text by its row, its column and the width of the
prompt, and read in this way, two editors of one line that differ in their geometry write the same
thing at every key.

* `Screen.Fits.offsetAt_place`: the cell of an offset is read back as the offset.
* `Editor.Alike.act`: what an action does to the line does not depend on the geometry.
* `Editor.reading_output`: the writes of an action, read back, are its edits.
* `readings_of_any_geometry`: two runs of the same actions.
-/
namespace BracketCue

open Terminal

/-! ## Places read back -/

/-- The offset of the text that stands at a place. -/
def Screen.offsetAt (s : Screen) (p : Place) : Int :=
  p.row * s.columns.count + p.col - s.promptWidth

/-- A character written at an offset of the text, lit or not. -/
structure Reading where
  offset : Int
  mark : Mark
  deriving DecidableEq, Repr

/-- A write read back from its place. -/
def Screen.read (s : Screen) (w : Write) : Reading :=
  ⟨s.offsetAt w.place, w.mark⟩

/-- An edit as it should be read back. -/
def Edit.reading (e : Edit) : Reading :=
  ⟨e.offset, e.mark⟩

section
variable {screen : Screen} {text : Text}

theorem Screen.Fits.offsetAt_place (fits : screen.Fits text) {o : Nat} (ho : o ≤ text.length) :
    screen.offsetAt (screen.cellOf text.length o).place = o := by
  have short := fits.short
  have atOffset : screen.lineOffset o = screen.promptWidth + o := Screen.lineOffset_of_lt (by omega)
  have inLine : screen.lineOffset o ≤ screen.lineOffset text.length := by
    rw [atOffset, Screen.lineOffset_of_lt short]
    exact Nat.add_le_add_left ho _
  have split := ((screen.columns.cellAt_eq_iff inLine (screen.cellOf text.length o)).1 rfl).2
  rw [(fits.small o).place_eq, offsetAt]
  rw [Nat.mul_comm, atOffset] at split
  dsimp only
  omega

theorem Screen.Fits.read_write (fits : screen.Fits text) {ed : Edit}
    (h : ed.offset < text.length) : screen.read (ed.write screen text) = ed.reading :=
  congrArg (Reading.mk · ed.mark) (fits.offsetAt_place (Nat.le_of_lt h))

end

/-! ## Two editors of one line -/

namespace Editor

/-- Two editors in the same state, but for their screens and the styles of their moves. -/
structure Alike (e e' : Editor) : Prop where
  text_eq : e.text = e'.text
  cursor_eq : e.cursor = e'.cursor
  indicator_eq : e.indicator = e'.indicator
  paint_eq : e.painter.paint = e'.painter.paint

section
variable {e e' : Editor} {c c' : Cursor}

theorem Alike.follow_eq (h : e.Alike e') (key : Key) : e.follow key = e'.follow key := by
  obtain ⟨text, cursor, screen, indicator, painter, cursor_le⟩ := e
  obtain ⟨text', cursor', screen', indicator', painter', cursor_le'⟩ := e'
  obtain ⟨rfl, rfl, rfl, -⟩ := h
  simp only [follow]

theorem Alike.act (h : e.Alike e') (a : Action) : (e.act a).Alike (e'.act a) := by
  cases a with
  | press key =>
    refine ⟨h.text_eq, ?_, congrArg Prod.fst (h.follow_eq key), h.paint_eq⟩
    simp only [Editor.act, press, h.text_eq, h.cursor_eq]
  | switch on =>
    exact ⟨h.text_eq, h.cursor_eq, congrArg (Indicator.switch · on) h.indicator_eq, h.paint_eq⟩

theorem Alike.editsBy_eq (h : e.Alike e') (a : Action) : e.editsBy a = e'.editsBy a := by
  have change : e.changeBy a = e'.changeBy a := by
    cases a with
    | press key => exact congrArg Prod.snd (h.follow_eq key)
    | switch on => rfl
  rw [Editor.editsBy, Editor.editsBy, change, h.paint_eq, h.text_eq]

theorem Alike.after (h : e.Alike e') (actions : List Action) :
    (e.after actions).Alike (e'.after actions) := by
  induction actions generalizing e e' with
  | nil => exact h
  | cons a rest ih => exact ih (h.act a)

/-! ## Runs read back -/

/-- The writes of a run, action by action, as readings of where the model cursor is. -/
def readings (e : Editor) (c : Cursor) : List Action → List (List Reading)
  | [] => []
  | a :: rest =>
    (c.writes (e.output a)).map e.screen.read :: (e.act a).readings (c.run (e.output a)) rest

/-- The writes of an action, read back, are its edits. -/
theorem reading_output (fits : e.screen.Fits e.text) (here : c.place = (e.cellOf e.cursor).place)
    (a : Action) :
    (c.writes (e.output a)).map e.screen.read = (e.editsBy a).map Edit.reading := by
  have writes := writes_output (.exact fits) here a
  rw [map_seen_id] at writes
  rw [writes, List.map_map]
  refine List.map_congr_left fun ed hed => ?_
  exact fits.read_write (lt_length_of_get (Change.get_edits hed))

theorem Alike.readings_eq (h : e.Alike e') (fits : e.screen.Fits e.text)
    (fits' : e'.screen.Fits e'.text) (here : c.place = (e.cellOf e.cursor).place)
    (here' : c'.place = (e'.cellOf e'.cursor).place) (actions : List Action) :
    e.readings c actions = e'.readings c' actions := by
  induction actions generalizing e e' c c' with
  | nil => rfl
  | cons a rest ih =>
    have there := run_output (.exact fits) here a
    have there' := run_output (.exact fits') here' a
    rw [← e.act_cellOf a] at there
    rw [← e'.act_cellOf a] at there'
    have tail := ih (h.act a) (by rwa [act_screen, act_text]) (by rwa [act_screen, act_text])
      there there'
    rw [readings, readings, reading_output fits here, reading_output fits' here', h.editsBy_eq a, tail]

end

end Editor

/-- Two editors of one text, settings alike but for the style of the moves, screens and prompts as
different as they like: whatever is pressed and switched, every action writes the same characters at
the same offsets in the same order, lit or not alike, and after every action the two have the same
cursor and the same highlight. -/
theorem readings_of_any_geometry (text : Text) (settings : Settings) (moveStyle : MoveStyle)
    (screen screen' : Screen) (actions : List Editor.Action) (fits : screen.Fits text)
    (fits' : screen'.Fits text) :
    let e := Editor.start text screen settings
    let e' := Editor.start text screen' { settings with moveStyle := moveStyle }
    let home := Cursor.start (screen.cellOf text.length text.length)
    let home' := Cursor.start (screen'.cellOf text.length text.length)
    e.readings home actions = e'.readings home' actions ∧
      ∀ n,
        let b := e.after (actions.take n)
        let b' := e'.after (actions.take n)
        b.cursor = b'.cursor ∧ b.highlight? = b'.highlight? := by
  intro e e' home home'
  have alike : e.Alike e' := ⟨rfl, rfl, rfl, rfl⟩
  have here : home.place = (e.cellOf e.cursor).place := rfl
  have here' : home'.place = (e'.cellOf e'.cursor).place := rfl
  refine ⟨alike.readings_eq fits fits' here here' actions, fun n => ?_⟩
  have after := alike.after (actions.take n)
  exact ⟨after.cursor_eq, congrArg Indicator.current after.indicator_eq⟩

/-- On one row by net moves, and on five rows of one column by way of the left edge. -/
theorem readings_of_any_geometry_one_column :
    let text := "(ab)".toList
    let screen : Screen := ⟨2, 80, by decide⟩
    let screen' : Screen := ⟨0, 1, by decide⟩
    let settings := { Settings.standard with moveStyle := .lineStart }
    let actions : List Editor.Action := [.press .home, .switch false, .press .enter]
    let e' := Editor.start text screen' settings
    screen.Fits text ∧ screen'.Fits text ∧
      e'.readings (.start (screen'.cellOf text.length text.length)) actions =
        [[⟨0, '(', true⟩, ⟨3, ')', true⟩], [], [⟨0, '(', false⟩, ⟨3, ')', false⟩]] := by
  intro text screen screen' settings actions e'
  have fits : screen.Fits text := by decide
  have fits' : screen'.Fits text := by decide
  have same :=
    (readings_of_any_geometry text .standard .lineStart screen screen' actions fits fits').1
  refine ⟨fits, fits', same.symm.trans ?_⟩
  decide

end BracketCue
