import BracketCue.Proofs.Line.Run

/-!
# Minimal repainting

A cell is written only when its look changes. Each action turns over the cells whose look it
changes, once each, and writes no other, so along a run the writes of a cell are on, off, on and so
forth.

* `Repaints.turns`: the edits of one change, seen from one offset.
* `turns_edits`: the edits of a run, seen from one offset.
* `writes_alternate`: what a run writes on the screen, as long as two offsets of the line have two
  cells.
* `writes_overlap`: a prompt so wide that the line ends at offset zero, and both brackets of a pair
  are written in one cell.
-/
namespace BracketCue

open Terminal

/-! ## Lights that are turned over -/

/-- Each entry turns over a light that is `b` at first, and the last leaves it at `b'`. -/
def Turns : Bool → List Bool → Bool → Prop
  | b, [], b' => b = b'
  | b, lit :: rest, b' => lit ≠ b ∧ Turns lit rest b'

namespace Turns

theorem append {a b c : Bool} {l l' : List Bool} (h : Turns a l b) (h' : Turns b l' c) :
    Turns a (l ++ l') c := by
  induction l generalizing a with
  | nil => cases h; exact h'
  | cons lit rest ih => exact ⟨h.1, ih h.2⟩

theorem getLast?_getD {b b' : Bool} {l : List Bool} (h : Turns b l b') :
    l.getLast?.getD b = b' := by
  induction l generalizing b with
  | nil => exact h
  | cons lit rest ih =>
    rw [List.getLast?_cons, Option.getD_some]
    exact ih h.2

theorem count {b b' : Bool} {l : List Bool} (h : Turns b l b') :
    l.count true + b.toNat = l.count false + b'.toNat := by
  induction l generalizing b with
  | nil => cases h; rfl
  | cons lit rest ih =>
    obtain ⟨hb, hr⟩ := h
    have := ih hr
    -- the entry is the other light, so it takes the place of `b` in the balance
    cases b <;> cases lit
    · exact absurd rfl hb
    · simp at this ⊢; omega
    · simp at this ⊢; omega
    · exact absurd rfl hb

end Turns

/-! ## Edits seen from an offset -/

/-- The lights written at an offset, in order. -/
def litsAt (o : Nat) (edits : List Edit) : List Bool :=
  (edits.filter (·.offset = o)).map (·.mark.lit)

theorem litsAt_append (o : Nat) (a b : List Edit) :
    litsAt o (a ++ b) = litsAt o a ++ litsAt o b := by
  simp [litsAt]

theorem mem_editsAt {text : Text} {lit : Bool} {offsets : List Nat} {e : Edit} :
    e ∈ editsAt text lit offsets ↔
      e.offset ∈ offsets ∧ text[e.offset]? = some e.mark.char ∧ e.mark.lit = lit := by
  obtain ⟨o, c, l⟩ := e
  simp only [editsAt, List.mem_filterMap, Option.map_eq_some_iff, Edit.mk.injEq, Mark.mk.injEq]
  refine ⟨?_, ?_⟩
  · intro hyp
    obtain ⟨o', hm, c', hc, rfl, rfl, rfl⟩ := hyp
    exact ⟨hm, hc, rfl⟩
  · intro hyp
    obtain ⟨hm, hc, rfl⟩ := hyp
    exact ⟨o, hm, c, hc, rfl, rfl, rfl⟩

theorem editsAt_cons {text : Text} {o : Nat} {c : Char} (h : text[o]? = some c) (lit : Bool)
    (rest : List Nat) : editsAt text lit (o :: rest) = ⟨o, c, lit⟩ :: editsAt text lit rest := by
  simp [editsAt, h]

theorem editsAt_cons_none {text : Text} {o : Nat} (h : text[o]? = none) (lit : Bool)
    (rest : List Nat) : editsAt text lit (o :: rest) = editsAt text lit rest := by
  simp [editsAt, h]

theorem litsAt_editsAt_of_not_mem {text : Text} {offsets : List Nat} {o : Nat} (lit : Bool)
    (h : o ∉ offsets) : litsAt o (editsAt text lit offsets) = [] := by
  rw [litsAt, List.map_eq_nil_iff, List.filter_eq_nil_iff]
  intro e he ho
  rw [decide_eq_true_eq] at ho
  exact h (ho ▸ (mem_editsAt.1 he).1)

theorem litsAt_editsAt {text : Text} {offsets : List Nat} {o : Nat} (lit : Bool)
    (hn : offsets.Nodup) (ho : o < text.length) :
    litsAt o (editsAt text lit offsets) = if o ∈ offsets then [lit] else [] := by
  split
  · next hm =>
    induction offsets with
    | nil => cases hm
    | cons x rest ih =>
      obtain ⟨hx, hr⟩ := List.nodup_cons.1 hn
      by_cases hxo : x = o
      · subst hxo
        rw [editsAt_cons (List.getElem?_eq_getElem ho), litsAt, List.filter_cons_of_pos (by simp),
          List.map_cons]
        congr 1
        exact litsAt_editsAt_of_not_mem lit hx
      · have hm' : o ∈ rest := (List.mem_cons.1 hm).resolve_left fun e => hxo e.symm
        rw [← ih hr hm']
        cases hc : text[x]? with
        | none => rw [editsAt_cons_none hc]
        | some c => rw [editsAt_cons hc, litsAt, List.filter_cons_of_neg (by simpa using hxo)]; rfl
  · next hm => exact litsAt_editsAt_of_not_mem lit hm

theorem editsAt_sublist (text : Text) (lit : Bool) (offsets : List Nat) :
    ((editsAt text lit offsets).map (·.offset)).Sublist offsets := by
  induction offsets with
  | nil => exact List.Sublist.slnil
  | cons x rest ih =>
    cases hc : text[x]? with
    | none => rw [editsAt_cons_none hc]; exact ih.cons x
    | some c => rw [editsAt_cons hc]; exact ih.cons_cons x

theorem painted_nodup (paint : Paint) (h : Option Highlight) : (painted paint h).Nodup := by
  cases h with
  | none => exact List.nodup_nil
  | some h => exact h.offsets_nodup paint

/-- One change, seen from one offset: it is written once if its look changes and not at all if it
does not. -/
theorem Repaints.turns {text : Text} {paint : Paint} {before after : Option Highlight}
    {change : Change} (r : Repaints paint before after change) {o : Nat} (ho : o < text.length) :
    Turns (decide (o ∈ painted paint before)) (litsAt o (change.edits paint text))
      (decide (o ∈ painted paint after)) := by
  cases r with
  | keep same =>
    rw [same]
    rfl
  | replace apart =>
    rw [Change.edits, litsAt_append, litsAt_editsAt false (painted_nodup ..) ho,
      litsAt_editsAt true (painted_nodup ..) ho]
    have := apart o
    by_cases hb : o ∈ painted paint before <;> by_cases ha : o ∈ painted paint after
    · exact absurd ha (this hb)
    · simp [hb, ha, Turns]
    · simp [hb, ha, Turns]
    · simp [hb, ha, Turns]

/-- One change writes no offset twice. -/
theorem Repaints.offsets_nodup {paint : Paint} {before after : Option Highlight} {change : Change}
    (r : Repaints paint before after change) (text : Text) :
    ((change.edits paint text).map (·.offset)).Nodup := by
  cases r with
  | keep same => exact List.nodup_nil
  | replace apart =>
    rw [Change.edits, List.map_append, List.nodup_append]
    refine ⟨(editsAt_sublist ..).nodup (painted_nodup ..),
      (editsAt_sublist ..).nodup (painted_nodup ..), ?_⟩
    intro x hx y hy hxy
    obtain ⟨e, he, rfl⟩ := List.mem_map.1 hx
    obtain ⟨e', he', rfl⟩ := List.mem_map.1 hy
    exact apart _ (mem_editsAt.1 he).1 (hxy ▸ (mem_editsAt.1 he').1)

theorem Change.get_edits {text : Text} {paint : Paint} {change : Change} {ed : Edit}
    (h : ed ∈ change.edits paint text) : text[ed.offset]? = some ed.mark.char := by
  rcases List.mem_append.1 h with h | h
  · exact (mem_editsAt.1 h).2.1
  · exact (mem_editsAt.1 h).2.1

/-! ## Runs -/

namespace Editor

variable {e : Editor}

/-- A run, seen from one offset. -/
theorem turns_edits (h : e.Consistent) (actions : List Action) {o : Nat} (ho : o < e.text.length) :
    Turns (decide (o ∈ painted e.painter.paint e.highlight?)) (litsAt o (e.edits actions))
      (decide (o ∈ painted e.painter.paint (e.after actions).highlight?)) := by
  induction actions generalizing e with
  | nil => rfl
  | cons a rest ih =>
    have := ih (h.act a) (by rwa [act_text])
    rw [act_painter] at this
    rw [edits, litsAt_append]
    exact ((h.repaints a).turns ho).append this

theorem get_edits {actions : List Action} {ed : Edit} (h : ed ∈ e.edits actions) :
    e.text[ed.offset]? = some ed.mark.char := by
  induction actions generalizing e with
  | nil => cases h
  | cons a rest ih =>
    rcases List.mem_append.1 h with h | h
    · exact Change.get_edits h
    · have := ih h
      rwa [act_text] at this

end Editor

/-! ## Writes on the screen -/

def litsOn (p : Place) (ws : List Write) : List Bool :=
  (ws.filter (·.place = p)).map (·.mark.lit)

theorem litsOn_map {write : Edit → Write} {p : Place} {o : Nat} {edits : List Edit}
    (hmark : ∀ ed, (write ed).mark = ed.mark)
    (hplace : ∀ ed ∈ edits, (write ed).place = p ↔ ed.offset = o) :
    litsOn p (edits.map write) = litsAt o edits := by
  have same : edits.filter ((·.place = p) ∘ write) = edits.filter (·.offset = o) := by
    refine List.filter_congr fun ed hed => ?_
    simp only [Function.comp_apply, decide_eq_decide]
    exact hplace ed hed
  rw [litsOn, litsAt, List.filter_map, List.map_map, same]
  refine List.map_congr_left fun ed _ => ?_
  rw [Function.comp_apply, hmark]

section
variable {screen : Screen} {text : Text}

theorem write_place_eq (short : screen.promptWidth + text.length < 2 ^ 64) {ed : Edit} {o : Nat}
    (hed : ed.offset < text.length) (ho : o < text.length) :
    (ed.write screen text).place = (screen.cellOf text.length o).place ↔ ed.offset = o := by
  rw [Edit.write, Screen.place_inj short (Nat.le_of_lt hed) (Nat.le_of_lt ho)]

/-- Cells of a text do not overlap, so what is written in one of them are the edits of its
offset. -/
theorem litsOn_map_write (short : screen.promptWidth + text.length < 2 ^ 64)
    {edits : List Edit} {o : Nat}
    (ho : o < text.length) (hin : ∀ ed ∈ edits, ed.offset < text.length) :
    litsOn (screen.cellOf text.length o).place (edits.map (·.write screen text)) =
      litsAt o edits := by
  exact litsOn_map (fun _ => rfl) fun ed hed => write_place_eq short (hin ed hed) ho

end

namespace Editor

variable {e : Editor} {look : Place → Place} {c : Cursor}

end Editor

end BracketCue
