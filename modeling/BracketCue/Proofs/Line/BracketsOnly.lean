import BracketCue.Proofs.Bracket.OnePass
import BracketCue.Proofs.Line.SwitchedOff

/-!
# Only brackets are written

What an editor stands for, whatever was pressed and switched: the text it began with, a cursor in
that text, and a highlight that the text bears out. So a key never asks the indicator for a cursor
beyond the text, the painter passes over no offset, and all that a key writes are brackets in their
own cells.

* `Highlight.Valid.grounded`: a highlight that the text calls for is borne out by it.
* `strokes_edits`: what is written for a highlight are the brackets of its pair.
* `writes_press_strokes`: one key.
* `brackets_only_run`: every key after any run.
-/
namespace BracketCue

open Terminal

/-- The text bears the highlight out: the search from either end of the pair finds it, the anchor is
one of these ends, and the text is long enough for both. -/
structure Highlight.Grounded (text : Text) (h : Highlight) : Prop where
  found : ∀ side, partner? text ⟨h.pair.endOn side, ⟨h.pair.family, side⟩⟩ = some h.pair
  anchored : ∃ side, h.anchor = h.pair.endOn side
  inside : ∀ side, h.pair.endOn side < text.length

theorem Highlight.Valid.grounded {text : Text} {h : Highlight} (v : h.Valid text) :
    h.Grounded text where
  found := partner?_end v.balances
  anchored := Pair.exists_endOn_iff.2 v.anchor_end
  inside side := lt_length_of_get (v.balances.get_endOn side)

/-! ## Strokes -/

/-- A write at an offset of a text, in its cell: the character is the one that the text has there,
and it is the bracket of the pair that is highlighted, opening or closing as its end asks. -/
structure Stroke (screen : Screen) (text : Text) (h : Option Highlight) (lit : Bool) (o : Nat)
    (w : Write) : Prop where
  place : w.place = (screen.cellOf text.length o).place
  lit : w.mark.lit = lit
  char : text[o]? = some w.mark.char
  bracket : ∃ h' ∈ h, ∃ side, o = h'.pair.endOn side ∧
    w.mark.char = Bracket.toChar ⟨h'.pair.family, side⟩

section
variable {text : Text} {h : Option Highlight} {paint : Paint} {o : Nat}

/-- A painted offset is an end of the pair, and the text has the bracket of that end there. -/
theorem ValidIn.bracket_of_painted (v : ValidIn text h) (ho : o ∈ painted paint h) :
    ∃ h' ∈ h, ∃ side, o = h'.pair.endOn side ∧
      text[o]? = some (Bracket.toChar ⟨h'.pair.family, side⟩) := by
  cases h with
  | none => cases ho
  | some h =>
    have valid := v h rfl
    obtain ⟨side, rfl⟩ := Pair.exists_endOn_iff.2 (valid.mem_offsets ho)
    exact ⟨h, rfl, side, rfl, valid.balances.get_endOn side⟩

/-- Every painted offset has its stroke, in the order in which they are painted. -/
theorem strokes_edits (v : ValidIn text h) (screen : Screen) (paint : Paint) (lit : Bool) :
    List.Forall₂ (Stroke screen text h lit) (painted paint h)
      ((editsAt text lit (painted paint h)).map (·.write screen text)) := by
  rw [List.forall₂_map_right_iff]
  have edits := forall₂_editsAt lit fun o (ho : o ∈ painted paint h) => v.lt_length ho
  have within := (List.forall₂_and_left _ _).2 ⟨fun o (ho : o ∈ painted paint h) => ho, edits⟩
  refine within.imp fun o ed ⟨ho, hed, get, unlit⟩ => ?_
  obtain ⟨h', hh', side, at', bracket⟩ := v.bracket_of_painted ho
  rw [get, Option.some.injEq] at bracket
  exact ⟨by rw [Edit.write, hed], unlit, get, h', hh', side, at', bracket⟩

/-- What a change erases and draws is what was highlighted and what is. -/
theorem Repaints.validIn {before after : Option Highlight} {change : Change}
    (r : Repaints paint before after change) (vb : ValidIn text before) (va : ValidIn text after) :
    ValidIn text change.erased ∧ ValidIn text change.drawn := by
  cases r with
  | keep same => exact ⟨nofun, nofun⟩
  | replace apart => exact ⟨vb, va⟩

end

namespace Editor

variable {e : Editor}

/-- A key that moves the highlight passes the indicator's own check of the cursor. -/
theorem moveTo_press (e : Editor) {key : Key} (h : key ≠ .enter) :
    e.indicator.moveTo e.text (e.press key).2.after =
      .ok ((e.press key).1.indicator, (e.press key).2.change) := by
  have inLine : key.target e.text.length e.cursor ≤ e.text.length := key.target_le e.cursor_le
  have follow : e.follow key = e.indicator.move e.text _ inLine := if_neg h
  show e.indicator.moveTo e.text (key.target e.text.length e.cursor) = .ok (e.follow key)
  rw [Indicator.moveTo, dif_pos inLine, follow]

/-- A key writes the strokes of what it erases, then those of what it draws, and nothing else. -/
theorem writes_press_strokes (consistent : e.Consistent) {look : Place → Place} {c : Cursor}
    (follows : Follows look e.screen e.text) (here : look c.place = (e.cellOf e.cursor).place)
    (key : Key) :
    let change := (e.press key).2.change
    ValidIn e.text change.erased ∧ ValidIn e.text change.drawn ∧
      ∃ off on, (c.writes (e.press key).2.ops).map (·.seen look) = off ++ on ∧
        List.Forall₂ (Stroke e.screen e.text change.erased false)
          (painted e.painter.paint change.erased) off ∧
        List.Forall₂ (Stroke e.screen e.text change.drawn true)
          (painted e.painter.paint change.drawn) on := by
  intro change
  obtain ⟨erased, drawn⟩ :=
    (consistent.repaints (.press key)).validIn consistent.valid (consistent.act (.press key)).valid
  have writes : (c.writes (e.press key).2.ops).map (·.seen look) =
      (change.edits e.painter.paint e.text).map (·.write e.screen e.text) :=
    writes_output follows here (.press key)
  rw [writes, Change.edits, List.map_append]
  exact ⟨erased, drawn, _, _, rfl, strokes_edits erased _ _ _, strokes_edits drawn _ _ _⟩

end Editor

/-- After any run the text is the one that the editor began with, the cursor is in it, and what is
highlighted is borne out by it. No key that moves the highlight asks for a cursor beyond the text.
What a key erases and draws is borne out as well, and for each offset that is painted for it the key
writes one character, in the cell of the offset: the bracket that the text has there, of the family
of the pair and opening or closing as the end asks. It writes nothing else. Places are seen as
machine words hold them. -/
theorem brackets_only_run (text : Text) (screen : Screen) (settings : Settings)
    (actions : List Editor.Action) :
    let e := Editor.start text screen settings
    let s := e.after actions
    let here := (Cursor.start (screen.cellOf text.length text.length)).run
      (e.outputs actions).flatten
    s.text = text ∧ s.cursor ≤ text.length ∧ (∀ h ∈ s.highlight?, h.Grounded text) ∧
    ∀ key,
      let p := (s.press key).2
      (key ≠ .enter →
        s.indicator.moveTo text p.after = .ok ((s.press key).1.indicator, p.change)) ∧
      (∀ h, p.change.erased = some h ∨ p.change.drawn = some h → h.Grounded text) ∧
      ∃ off on, (here.writes p.ops).map (·.seen Place.wrap) = off ++ on ∧
        List.Forall₂ (Stroke screen text p.change.erased false)
          (painted settings.paint p.change.erased) off ∧
        List.Forall₂ (Stroke screen text p.change.drawn true)
          (painted settings.paint p.change.drawn) on := by
  intro e s here
  have text_eq : s.text = text := e.after_text actions
  have screen_eq : s.screen = screen := e.after_screen actions
  have paint_eq : s.painter.paint = settings.paint :=
    congrArg Painter.paint (e.after_painter actions)
  have consistent : s.Consistent := (Editor.consistent_start text screen settings).after actions
  have follows : Follows Place.wrap e.screen e.text := .wrapped screen text
  let home := Cursor.start (screen.cellOf text.length text.length)
  have begins : home.place.wrap = (e.cellOf e.cursor).place := Cell.wrap_place _
  have there := Editor.run_outputs follows begins actions
  rw [← e.after_cellOf actions] at there
  have valid := consistent.valid
  rw [text_eq] at valid
  refine ⟨text_eq, text_eq ▸ s.cursor_le, fun h hh => (valid h hh).grounded, fun key => ?_⟩
  intro p
  obtain ⟨erased, drawn, strokes⟩ :=
    Editor.writes_press_strokes consistent (.wrapped s.screen s.text) there key
  simp only [text_eq, screen_eq, paint_eq] at erased drawn strokes
  refine ⟨fun moves => text_eq ▸ s.moveTo_press moves, fun h hh => ?_, strokes⟩
  rcases hh with hh | hh
  · exact (erased h hh).grounded
  · exact (drawn h hh).grounded

end BracketCue
