import BracketCue.Proofs.Line.Repaint
import BracketCue.Proofs.Terminal.Display

/-!
# What the screen shows

A line that was just typed stands plain on the screen, the cursor at its end. From there a run of
the editor keeps the screen true to what the editor believes: after any keys and any switching on
and off, the highlighted cells are those of the painted offsets, every character is where it was,
and the cursor is in the cell of the editor's cursor.

* `typed_showsPlain`: every text has such a sheet to start from.
* `Editor.display_eq`: a run puts its edits on the sheet.
* `display_run_painted`: the screen after a run.
-/
namespace BracketCue

namespace Terminal

/-- The text stands on the sheet, each character in its cell, and nothing is highlighted. -/
structure Sheet.ShowsPlain (s : Sheet) (screen : Screen) (text : Text) : Prop where
  char_at : ∀ o c, text[o]? = some c → s (screen.cellOf text.length o).place = ⟨c, false⟩
  plain : ∀ p, (s p).lit = false

/-- An empty sheet on which a text was typed. -/
def Sheet.typed (screen : Screen) (text : Text) : Sheet := fun p =>
  let typed? := (List.range text.length).find? fun o => (screen.cellOf text.length o).place = p
  ⟨(typed?.bind (text[·]?)).getD ' ', false⟩

theorem lit_foldl_put (ws : List Write) (s : Sheet) (p : Place) :
    (ws.foldl Sheet.put s p).lit = (litsOn p ws).getLast?.getD (s p).lit := by
  rw [foldl_put_apply, litsOn, List.getLast?_map]
  cases (ws.filter (·.place = p)).getLast? <;> rfl

/-- Writing a character where it already stands changes no character. -/
theorem char_foldl_put {ws : List Write} {s : Sheet} {p : Place}
    (h : ∀ w ∈ ws, w.place = p → w.mark.char = (s p).char) :
    (ws.foldl Sheet.put s p).char = (s p).char := by
  rw [foldl_put_apply]
  cases hl : (ws.filter (·.place = p)).getLast? with
  | none => rfl
  | some w =>
    have hm := List.mem_filter.1 (List.mem_of_getLast? hl)
    exact h w hm.1 (by simpa using hm.2)

end Terminal

open Terminal

section
variable {screen : Screen} {text : Text}

/-- A place that is no cell of the text is never written. -/
theorem litsOn_eq_nil {edits : List Edit} {p : Place}
    (hin : ∀ ed ∈ edits, ed.offset < text.length)
    (hp : ∀ o, o < text.length → (screen.cellOf text.length o).place ≠ p) :
    litsOn p (edits.map (·.write screen text)) = [] := by
  rw [litsOn, List.map_eq_nil_iff, List.filter_eq_nil_iff]
  intro w hw hwp
  obtain ⟨ed, hed, rfl⟩ := List.mem_map.1 hw
  rw [decide_eq_true_eq] at hwp
  exact hp ed.offset (hin ed hed) hwp

theorem typed_showsPlain (screen : Screen) (short : screen.promptWidth + text.length < 2 ^ 64) :
    (Sheet.typed screen text).ShowsPlain screen text := by
  refine ⟨fun o c hc => ?_, fun p => rfl⟩
  have ho := lt_length_of_get hc
  rw [Sheet.typed]
  cases hf : (List.range text.length).find?
      fun o' => (screen.cellOf text.length o').place = (screen.cellOf text.length o).place with
  | none =>
    have := List.find?_eq_none.1 hf o (List.mem_range.2 ho)
    simp at this
  | some o' =>
    have ho' := List.mem_range.1 (List.mem_of_find?_eq_some hf)
    have he := List.find?_some hf
    rw [decide_eq_true_eq, Screen.place_inj short (Nat.le_of_lt ho') (Nat.le_of_lt ho)] at he
    subst he
    simp [hc]

/-- What edits of a text leave lit, given the lights they write at each offset. -/
theorem lit_edits_iff (short : screen.promptWidth + text.length < 2 ^ 64)
    {edits : List Edit} {sheet : Sheet}
    {offsets : List Nat} (plain : sheet.ShowsPlain screen text)
    (hin : ∀ ed ∈ edits, ed.offset < text.length)
    (hoff : ∀ o ∈ offsets, o < text.length)
    (turns : ∀ o, o < text.length → Turns false (litsAt o edits) (decide (o ∈ offsets)))
    (p : Place) :
    ((edits.map (·.write screen text)).foldl Sheet.put sheet p).lit = true ↔
      ∃ o ∈ offsets, (screen.cellOf text.length o).place = p := by
  rw [lit_foldl_put, plain.plain]
  by_cases hp : ∃ o, o < text.length ∧ (screen.cellOf text.length o).place = p
  · obtain ⟨o, ho, rfl⟩ := hp
    rw [litsOn_map_write short ho hin, (turns o ho).getLast?_getD, decide_eq_true_eq]
    refine ⟨fun hm => ⟨o, hm, rfl⟩, fun ⟨o', hm, he⟩ => ?_⟩
    exact (Screen.place_inj short (Nat.le_of_lt (hoff o' hm)) (Nat.le_of_lt ho)).1 he ▸ hm
  · rw [litsOn_eq_nil hin fun o ho he => hp ⟨o, ho, he⟩]
    refine ⟨fun h => ?_, fun ⟨o, hm, he⟩ => absurd ⟨o, hoff o hm, he⟩ hp⟩
    simp at h

/-- Edits of a text leave every character in its place. -/
theorem char_edits {edits : List Edit} {sheet : Sheet} (plain : sheet.ShowsPlain screen text)
    (hin : ∀ ed ∈ edits, text[ed.offset]? = some ed.mark.char) (p : Place) :
    ((edits.map (·.write screen text)).foldl Sheet.put sheet p).char = (sheet p).char := by
  refine char_foldl_put fun w hw hwp => ?_
  obtain ⟨ed, hed, rfl⟩ := List.mem_map.1 hw
  rw [← hwp]
  exact (congrArg Mark.char (plain.char_at _ _ (hin ed hed))).symm

end

/-- What the operations of a run make of a sheet, beginning in the cell of the editor's cursor. -/
def Editor.display (e : Editor) (sheet : Sheet) (actions : List Action) : Display :=
  (Display.mk (Cursor.start (e.cellOf e.cursor)) sheet).run (e.outputs actions).flatten

theorem Editor.display_eq {e : Editor} (fits : e.screen.Fits e.text) (sheet : Sheet)
    (actions : List Action) :
    (e.display sheet actions).cursor.place = (e.cellOf (e.after actions).cursor).place ∧
      (e.display sheet actions).sheet =
        ((e.edits actions).map (·.write e.screen e.text)).foldl Sheet.put sheet := by
  have follows : Follows id e.screen e.text := .exact fits
  have home : id (Cursor.start (e.cellOf e.cursor)).place = (e.cellOf e.cursor).place := rfl
  have hwrites := writes_outputs follows home actions
  rw [map_seen_id] at hwrites
  rw [display, Display.run_eq, hwrites]
  exact ⟨run_outputs follows home actions, rfl⟩

/-- After any run the screen shows what the editor believes: the highlighted cells are those of
the painted offsets, every character is as it was, and the cursor is in the cell of the editor's
cursor. -/
theorem display_run_painted (text : Text) (screen : Screen) (settings : Settings)
    (actions : List Editor.Action) (sheet : Sheet) (fits : screen.Fits text)
    (plain : sheet.ShowsPlain screen text) :
    let e := Editor.start text screen settings
    let e' := e.after actions
    let d := e.display sheet actions
    let place := fun o => (screen.cellOf text.length o).place
    (∀ p, (d.sheet p).lit = true ↔ ∃ o ∈ painted settings.paint e'.highlight?, place o = p) ∧
      (∀ p, (d.sheet p).char = (sheet p).char) ∧ d.cursor.place = place e'.cursor := by
  intro e e' d place
  have consistent : e.Consistent := Editor.consistent_start text screen settings
  obtain ⟨hcursor, hsheet⟩ := Editor.display_eq (e := e) fits sheet actions
  have hget : ∀ ed ∈ e.edits actions, text[ed.offset]? = some ed.mark.char := fun _ hed =>
    Editor.get_edits hed
  have valid : ValidIn text e'.highlight? := by
    have := (consistent.after actions).valid
    rwa [Editor.after_text] at this
  rw [show d.sheet = _ from hsheet]
  refine ⟨fun p => ?_, fun p => char_edits plain hget p, hcursor⟩
  exact lit_edits_iff fits.short plain (fun ed hed => lt_length_of_get (hget ed hed))
    (fun o ho => valid.lt_length ho) (fun o ho => Editor.turns_edits consistent actions ho) p

/-- A pair whose ends stand in different rows. -/
theorem display_run_painted_two_rows :
    let text := "(ab)".toList
    let screen : Screen := ⟨2, 3, by decide⟩
    let actions : List Editor.Action := [.press .home, .press .right, .press .left]
    let d := (Editor.start text screen .standard).display (.typed screen text) actions
    screen.Fits text ∧ (Sheet.typed screen text).ShowsPlain screen text ∧
      (∀ p, (d.sheet p).lit = true ↔ ⟨0, 2⟩ = p ∨ ⟨1, 2⟩ = p) ∧ d.cursor.place = ⟨0, 2⟩ := by
  intro text screen actions
  dsimp only
  have fits : screen.Fits text := by decide
  have plain := typed_showsPlain screen fits.short
  have hpainted :
      painted .both ((Editor.start text screen .standard).after actions).highlight? = [0, 3] := by
    decide
  have hcursor : ((Editor.start text screen .standard).after actions).cursor = 0 := by decide
  have hfirst : (screen.cellOf text.length 0).place = ⟨0, 2⟩ :=
    (fits.small 0).place_eq.trans (by decide)
  have hlast : (screen.cellOf text.length 3).place = ⟨1, 2⟩ :=
    (fits.small 3).place_eq.trans (by decide)
  have shown := display_run_painted text screen .standard actions _ fits plain
  simp only [show Settings.standard.paint = .both from rfl, hpainted, hcursor, hfirst, hlast,
    List.mem_cons, List.not_mem_nil, or_false, exists_eq_or_imp, exists_eq_left] at shown
  exact ⟨fits, plain, shown.1, shown.2.2⟩

end BracketCue
