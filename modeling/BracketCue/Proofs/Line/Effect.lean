import BracketCue.Proofs.Line.InFrame
import BracketCue.Proofs.Line.Repaint
import BracketCue.Proofs.Terminal.Display

/-!
# What one move does to the screen

The operations of one move of the cursor do what is asked of them for any change of the highlight,
whether or not a text ever calls for it: the pairs may have nothing to do with the text, share
offsets with each other, or lie beyond its end, as those of a line that has become shorter do. The
sheet that they are obeyed on may hold anything.

* `foldl_put_of_not_mem`, `foldl_put_of_mem`: what writes leave at a place that none of them is for,
  and at one where they all put the same mark.
* `foldl_put_editsAt`: what edits of one kind leave in the cell of an offset.
* `Painter.run_ops_start`: the operations take the cursor from cell to cell and leave nothing kept.
* `Painter.ops_effect`: the cursor, the cells that are written, and all the others.
-/
namespace BracketCue

open Terminal

/-! ## Writes at one place -/

section
variable {ws : List Write} {s : Sheet} {q : Place}

/-- A place that no write is for stays as it was. -/
theorem foldl_put_of_not_mem (h : ∀ w ∈ ws, w.place ≠ q) : ws.foldl Sheet.put s q = s q := by
  have untouched : ws.filter (·.place = q) = [] := by
    rw [List.filter_eq_nil_iff]
    intro w hw
    simpa using h w hw
  rw [foldl_put_apply, untouched]
  rfl

/-- A place where every write puts the same mark shows it, whichever is the last. -/
theorem foldl_put_of_mem {w : Write} (hw : w ∈ ws) (hq : w.place = q)
    (same : ∀ w' ∈ ws, w'.place = q → w'.mark = w.mark) :
    ws.foldl Sheet.put s q = w.mark := by
  rw [foldl_put_apply]
  cases hl : (ws.filter (·.place = q)).getLast? with
  | none =>
    have empty := List.getLast?_eq_none_iff.1 hl
    rw [List.filter_eq_nil_iff] at empty
    exact absurd (by simpa using hq) (empty w hw)
  | some last =>
    have mem := List.mem_filter.1 (List.mem_of_getLast? hl)
    exact same last mem.1 (by simpa using mem.2)

end

/-! ## Edits of one kind -/

section
variable {screen : Screen} {text : Text} {lit : Bool} {offsets : List Nat} {s : Sheet}

theorem mem_map_write_editsAt {w : Write} :
    w ∈ (editsAt text lit offsets).map (·.write screen text) ↔
      ∃ o ∈ offsets, ∃ c, text[o]? = some c ∧
        w = ⟨(screen.cellOf text.length o).place, c, lit⟩ := by
  rw [List.mem_map]
  constructor
  · rintro ⟨⟨o, c, l⟩, mem, rfl⟩
    obtain ⟨ho, hc, rfl⟩ := mem_editsAt.1 mem
    exact ⟨o, ho, c, hc, rfl⟩
  · rintro ⟨o, ho, c, hc, rfl⟩
    exact ⟨⟨o, c, lit⟩, mem_editsAt.2 ⟨ho, hc, rfl⟩, rfl⟩

/-- Edits leave a place as it was if it is no cell of theirs. -/
theorem foldl_put_editsAt_of_apart {q : Place}
    (apart : ∀ o ∈ offsets, o < text.length → (screen.cellOf text.length o).place ≠ q) :
    ((editsAt text lit offsets).map (·.write screen text)).foldl Sheet.put s q = s q := by
  apply foldl_put_of_not_mem
  intro w hw
  obtain ⟨o, ho, c, hc, rfl⟩ := mem_map_write_editsAt.1 hw
  exact apart o ho (lt_length_of_get hc)

/-- Edits put the character of an offset into its cell if the offset is one of theirs, and else
leave the cell as it was. -/
theorem foldl_put_editsAt (short : screen.promptWidth + text.length < 2 ^ 64) {o : Nat} {c : Char}
    (hc : text[o]? = some c) :
    ((editsAt text lit offsets).map (·.write screen text)).foldl Sheet.put s
        (screen.cellOf text.length o).place =
      if o ∈ offsets then ⟨c, lit⟩ else s (screen.cellOf text.length o).place := by
  have ho := lt_length_of_get hc
  have own : ∀ {o'}, o' < text.length →
      (screen.cellOf text.length o').place = (screen.cellOf text.length o).place → o' = o :=
    fun ho' he => (Screen.place_inj short (Nat.le_of_lt ho') (Nat.le_of_lt ho)).1 he
  split
  · next mem =>
    refine foldl_put_of_mem (mem_map_write_editsAt.2 ⟨o, mem, c, hc, rfl⟩) rfl fun w' hw' he => ?_
    obtain ⟨o', -, c', hc', rfl⟩ := mem_map_write_editsAt.1 hw'
    obtain rfl := own (lt_length_of_get hc') he
    rw [hc] at hc'
    cases hc'
    rfl
  · next absent =>
    exact foldl_put_editsAt_of_apart fun o' ho' hlt he => absent (own hlt he ▸ ho')

end

/-! ## One move -/

namespace Painter

variable {screen : Screen} {text : Text}

/-- The operations of a move take the model cursor, with nothing kept, from cell to cell. -/
theorem run_ops_start (p : Painter) (fits : screen.Fits text) (change : Change)
    (before after : Nat) :
    (Cursor.start (screen.cellOf text.length before)).run
        (p.ops screen text change before after) =
      .start (screen.cellOf text.length after) := by
  have place := p.run_ops (.exact fits)
    (c := .start (screen.cellOf text.length before)) rfl change after
  have saved := p.saved_ops (.start (screen.cellOf text.length before)) screen text change
    before after
  generalize (Cursor.start (screen.cellOf text.length before)).run _ = c at place saved
  obtain ⟨there, kept⟩ := c
  cases saved
  exact congrArg (Cursor.mk · []) place

/-- The operations of a move, on a line that fits and on any sheet. The cursor goes from the cell of
the one offset to that of the other, both cut off at the end of the line, and keeps nothing. Each
write is for an offset of the text that is erased or drawn, and writes the character that the text
has there. Afterwards the cell of such an offset shows that character, highlighted if the offset is
drawn, though it may be erased as well, and plain if it is only erased; all other places are as they
were. -/
theorem ops_effect (p : Painter) (screen : Screen) (text : Text) (fits : screen.Fits text)
    (change : Change) (before after : Nat) (sheet : Sheet) :
    let here := screen.cellOf text.length
    let ops := p.ops screen text change before after
    let erased := painted p.paint change.erased
    let drawn := painted p.paint change.drawn
    let d := (Display.mk (.start (here before)) sheet).run ops
    landing ops (here before) = here after ∧ d.cursor = .start (here after) ∧
      (∀ w ∈ (Cursor.start (here before)).writes ops, ∃ o c, (o ∈ erased ∨ o ∈ drawn) ∧
        text[o]? = some c ∧ w.place = (here o).place ∧ w.mark.char = c) ∧
      (∀ o c, text[o]? = some c → d.sheet (here o).place =
        if o ∈ drawn then ⟨c, true⟩ else if o ∈ erased then ⟨c, false⟩
        else sheet (here o).place) ∧
      ∀ q, (∀ o, o ∈ erased ∨ o ∈ drawn → o < text.length → (here o).place ≠ q) →
        d.sheet q = sheet q := by
  intro here ops erased drawn d
  have run : (Cursor.start (here before)).run ops = .start (here after) :=
    p.run_ops_start fits change before after
  have writes : (Cursor.start (here before)).writes ops =
      (change.edits p.paint text).map (·.write screen text) := by
    rw [← p.writes_ops (.exact fits) (c := .start (here before)) rfl change after, map_seen_id]
  have shown : d = ⟨.start (here after),
      ((editsAt text true drawn).map (·.write screen text)).foldl Sheet.put
        (((editsAt text false erased).map (·.write screen text)).foldl Sheet.put sheet)⟩ := by
    rw [show d = _ from Display.run_eq .., run, writes, Change.edits, List.map_append,
      List.foldl_append]
  refine ⟨?_, by rw [shown], fun w hw => ?_, fun o c hc => ?_, fun q apart => ?_⟩
  · rw [landing, run]
    exact (fits.small after).cell_start
  · rw [writes, Change.edits, List.map_append, List.mem_append] at hw
    rcases hw with hw | hw
    · obtain ⟨o, ho, c, hc, rfl⟩ := mem_map_write_editsAt.1 hw
      exact ⟨o, c, .inl ho, hc, rfl, rfl⟩
    · obtain ⟨o, ho, c, hc, rfl⟩ := mem_map_write_editsAt.1 hw
      exact ⟨o, c, .inr ho, hc, rfl, rfl⟩
  · rw [shown]
    dsimp only
    rw [foldl_put_editsAt fits.short hc, foldl_put_editsAt fits.short hc]
  · rw [shown]
    dsimp only
    rw [foldl_put_editsAt_of_apart fun o ho => apart o (.inr ho),
      foldl_put_editsAt_of_apart fun o ho => apart o (.inl ho)]

/-- A pair that is drawn shares its opener with the one erased and closes beyond the text; the
cursor comes from beyond the text too. -/
theorem ops_effect_stale_pairs :
    let p : Painter := ⟨.both, .lineStart⟩
    let text := "a(b".toList
    let screen : Screen := ⟨2, 2, by decide⟩
    let change : Change :=
      ⟨some ⟨⟨0, 1, .paren, by decide⟩, 1⟩, some ⟨⟨0, 7, .square, by decide⟩, 9⟩⟩
    let ops := p.ops screen text change 9 1
    let d := (Display.mk (.start ⟨2, 1⟩) fun _ => ⟨'?', true⟩).run ops
    screen.Fits text ∧ landing ops ⟨2, 1⟩ = ⟨1, 1⟩ ∧ d.sheet ⟨1, 0⟩ = ⟨'a', true⟩ ∧
      d.sheet ⟨1, 1⟩ = ⟨'(', false⟩ ∧ d.sheet ⟨2, 0⟩ = ⟨'?', true⟩ := by
  intro p text screen change
  dsimp only
  have fits : screen.Fits text := by decide
  have home : screen.cellOf text.length 9 = ⟨2, 1⟩ := by decide
  have there : screen.cellOf text.length 1 = ⟨1, 1⟩ := by decide
  have first : (screen.cellOf text.length 0).place = ⟨1, 0⟩ :=
    (fits.small 0).place_eq.trans (by decide)
  have second : (screen.cellOf text.length 1).place = ⟨1, 1⟩ :=
    (fits.small 1).place_eq.trans (by decide)
  have third : (screen.cellOf text.length 2).place = ⟨2, 0⟩ :=
    (fits.small 2).place_eq.trans (by decide)
  obtain ⟨lands, -, -, shows, -⟩ :=
    p.ops_effect screen text fits change 9 1 fun _ => ⟨'?', true⟩
  rw [home, there] at lands
  rw [← first, ← second, ← third]
  rw [home] at shows
  have lit := shows 0 'a' (by decide)
  have plain := shows 1 '(' (by decide)
  have untouched := shows 2 'b' (by decide)
  exact ⟨fits, lands, lit, plain, untouched⟩

end Painter
end BracketCue
