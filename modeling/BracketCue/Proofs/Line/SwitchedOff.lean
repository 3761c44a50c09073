import BracketCue.Proofs.Line.Echo
import BracketCue.Proofs.Line.Repaint
import Mathlib.Data.List.Forall2

/-!
# While highlighting is off

Switching highlighting off does nothing to the screen. The next key, whichever it is, puts out what
is lit, and from then on nothing is written until highlighting is on again.

* `enabled_after`: highlighting is on or off as it was switched last.
* `after_off`: what is highlighted since highlighting was switched off.
* `writes_press_off`: the first key puts out each painted offset once, in its cell.
* `quiet_while_off`: any key while highlighting is off, in any run.
-/
namespace BracketCue

open Terminal

/-- A write that puts out the character at an offset of the text, in its cell. -/
structure PutsOut (screen : Screen) (text : Text) (o : Nat) (w : Write) : Prop where
  place : w.place = (screen.cellOf text.length o).place
  char : text[o]? = some w.mark.char
  unlit : w.mark.lit = false

/-- Each offset of the text has its edit. -/
theorem forall₂_editsAt {text : Text} {offsets : List Nat} (lit : Bool)
    (h : ∀ o ∈ offsets, o < text.length) :
    List.Forall₂ (fun o ed => ed.offset = o ∧ text[o]? = some ed.mark.char ∧ ed.mark.lit = lit)
      offsets (editsAt text lit offsets) := by
  induction offsets with
  | nil => exact .nil
  | cons o rest ih =>
    have get := List.getElem?_eq_getElem (h o (List.mem_cons_self ..))
    rw [editsAt_cons get]
    exact .cons ⟨rfl, get, rfl⟩ (ih fun o' h' => h o' (List.mem_cons_of_mem _ h'))

namespace Editor

/-! ## Switching -/

def Action.leavesOn (on : Bool) : Action → Bool
  | .press _ => on
  | .switch on' => on'

/-- Whether highlighting is on after a run: as it was switched last, or as it was before. -/
def leftOn (on : Bool) (actions : List Action) : Bool :=
  actions.foldl Action.leavesOn on

theorem enabled_act (e : Editor) (a : Action) :
    (e.act a).indicator.enabled = a.leavesOn e.indicator.enabled := by
  cases a with
  | press key => exact e.follow_enabled key
  | switch on => rfl

theorem enabled_after (e : Editor) (actions : List Action) :
    (e.after actions).indicator.enabled = leftOn e.indicator.enabled actions := by
  induction actions generalizing e with
  | nil => rfl
  | cons a rest ih =>
    have := ih (e.act a)
    rwa [enabled_act] at this

/-- As long as highlighting is not switched on again, it stays off, and what was highlighted stays
until a key is pressed. -/
theorem after_off {e : Editor} (off : e.indicator.enabled = false) {done : List Action}
    (stays : .switch true ∉ done) :
    (e.after done).indicator.enabled = false ∧
      (e.after done).highlight? = if keys done = [] then e.highlight? else none := by
  induction done generalizing e with
  | nil => exact ⟨off, rfl⟩
  | cons a rest ih =>
    obtain ⟨ha, hrest⟩ := List.ne_and_not_mem_of_not_mem_cons stays
    cases a with
    | press key =>
      obtain ⟨off', lit⟩ := ih (e := (e.press key).1) ((e.follow_enabled key).trans off) hrest
      refine ⟨off', lit.trans ?_⟩
      rw [highlight?_press_off off key, ite_self]
      exact (if_neg (List.cons_ne_nil _ _)).symm
    | switch on =>
      have : on = false := Bool.eq_false_iff.2 fun h => ha (by rw [h])
      exact ih (e := e.setHighlighting on) this hrest

/-! ## Keys -/

section
variable {e : Editor} {look : Place → Place} {c : Cursor}

/-- While highlighting is off, a key puts out what is lit. -/
theorem editsBy_press_off (off : e.indicator.enabled = false) (key : Key) :
    e.editsBy (.press key) = editsAt e.text false (painted e.painter.paint e.highlight?) := by
  show (e.follow key).2.edits e.painter.paint e.text = _
  rw [follow_of_off off]
  exact List.append_nil _

theorem writes_press_off (consistent : e.Consistent) (off : e.indicator.enabled = false)
    (follows : Follows look e.screen e.text) (here : look c.place = (e.cellOf e.cursor).place)
    (key : Key) :
    List.Forall₂ (PutsOut e.screen e.text) (painted e.painter.paint e.highlight?)
      ((c.writes (e.output (.press key))).map (·.seen look)) := by
  rw [writes_output follows here (.press key), editsBy_press_off off, List.forall₂_map_right_iff]
  refine (forall₂_editsAt false fun o ho => consistent.valid.lt_length ho).imp ?_
  intro o ed ⟨hed, get, unlit⟩
  exact ⟨by rw [Edit.write, hed], get, unlit⟩

/-- While highlighting is off, no key lights a character. -/
theorem highlight_not_mem_press_off (off : e.indicator.enabled = false) (key : Key) (ch : Char) :
    .highlight ch ∉ e.output (.press key) := by
  intro h
  have marks : (e.output (.press key)).filterMap Op.mark? =
      (e.editsBy (.press key)).map (·.mark) := e.painter.filterMap_mark?_ops ..
  have lit : ⟨ch, true⟩ ∈ (e.output (.press key)).filterMap Op.mark? :=
    List.mem_filterMap.2 ⟨_, h, rfl⟩
  rw [marks, editsBy_press_off off, List.mem_map] at lit
  obtain ⟨ed, hed, hmark⟩ := lit
  have unlit := (mem_editsAt.1 hed).2.2
  rw [hmark] at unlit
  cases unlit

end

end Editor

/-- Highlighting is off after the actions `before`, and none of the actions `done` since then
switched it on. The next key lights no character. If it is the first key since then, it puts out each
offset that was painted when highlighting was off first, once and in its cell, and writes nothing
else. If it is not, nothing is highlighted any more and it writes no character at all. Nothing is
highlighted after it. Switching itself leaves highlight and cursor as they are, at any time. Places
are seen as machine words hold them. -/
theorem quiet_while_off (text : Text) (screen : Screen) (settings : Settings)
    (before done : List Editor.Action) (key : Key)
    (off : Editor.leftOn settings.enabled before = false) (stays : .switch true ∉ done) :
    let e := Editor.start text screen settings
    let shown := painted settings.paint (e.after before).highlight?
    let now := e.after (before ++ done)
    let ops := now.output (.press key)
    let here := (Cursor.start (screen.cellOf text.length text.length)).run
      (e.outputs (before ++ done)).flatten
    (∀ ch, .highlight ch ∉ ops) ∧
      (Editor.keys done = [] →
        List.Forall₂ (PutsOut screen text) shown ((here.writes ops).map (·.seen Place.wrap))) ∧
      (Editor.keys done ≠ [] → now.highlight? = none ∧ ∀ op ∈ ops, op.isEdit = false) ∧
      (now.act (.press key)).highlight? = none ∧
      ∀ actions on,
        let s := e.after actions
        (s.act (.switch on)).highlight? = s.highlight? ∧ (s.act (.switch on)).cursor = s.cursor := by
  intro e shown now ops here
  have offBefore : (e.after before).indicator.enabled = false := (e.enabled_after before).trans off
  obtain ⟨offNow, lit⟩ := Editor.after_off offBefore stays
  rw [← Editor.after_append] at offNow lit
  have consistent : now.Consistent := (Editor.consistent_start text screen settings).after _
  refine ⟨fun ch => ?_, fun first => ?_, fun later => ?_, ?_, fun actions on => ?_⟩
  · exact Editor.highlight_not_mem_press_off offNow key ch
  · let home := Cursor.start (screen.cellOf text.length text.length)
    have begins : home.place.wrap = (e.cellOf e.cursor).place := Cell.wrap_place _
    have follows : Follows Place.wrap e.screen e.text := .wrapped screen text
    have there := Editor.run_outputs follows begins (before ++ done)
    rw [← e.after_cellOf (before ++ done)] at there
    have puts := Editor.writes_press_off consistent offNow (.wrapped now.screen now.text) there key
    rw [lit, if_pos first] at puts
    simp only [now, Editor.after_text, Editor.after_screen, Editor.after_painter] at puts
    exact puts
  · rw [if_neg later] at lit
    refine ⟨lit, fun op hop => ?_⟩
    have dark : now.Dark := ⟨offNow, lit⟩
    rw [show ops = _ from dark.ops_press key] at hop
    rw [op.isEdit_eq_isSome, (travels_moves _).onlyMoves op hop]
    rfl
  · exact Editor.highlight?_press_off offNow key
  · exact ⟨rfl, rfl⟩

/-- Highlighting is switched off on a bracket: the first key puts both ends out, and the accepted
line after it has nothing left to do. -/
theorem quiet_while_off_on_bracket :
    let text := "(ab)".toList
    let screen : Screen := ⟨2, 3, by decide⟩
    let before : List Editor.Action := [.press .home, .switch false]
    let e := Editor.start text screen .standard
    let first := (e.after before).output (.press .right)
    let here := (Cursor.start (screen.cellOf text.length text.length)).run
      (e.outputs before).flatten
    let second := (e.after (before ++ [.press .right])).output (.press .enter)
    Editor.leftOn Settings.standard.enabled before = false ∧
      Editor.Action.switch true ∉ [Editor.Action.press .right] ∧
      List.Forall₂ (PutsOut screen text) [0, 3] ((here.writes first).map (·.seen Place.wrap)) ∧
      ∀ op ∈ second, op.isEdit = false := by
  intro text screen before e first here second
  have off : Editor.leftOn Settings.standard.enabled before = false := rfl
  have quietFirst := quiet_while_off text screen .standard before [] .right off (by decide)
  have quietSecond := quiet_while_off text screen .standard before [.press .right] .enter off
    (by decide)
  have shown : painted .both (e.after before).highlight? = [0, 3] := by decide
  refine ⟨off, by decide, ?_, (quietSecond.2.2.1 nofun).2⟩
  rw [← shown]
  exact quietFirst.2.1 rfl

end BracketCue
