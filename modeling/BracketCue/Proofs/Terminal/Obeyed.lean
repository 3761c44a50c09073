import BracketCue.Proofs.Terminal.Emulator
import Mathlib.Data.List.Forall2

/-!
# What is sent is obeyed

The escape sequences of operations make a terminal do what the operations say, taken at their word:
where the model cursor reads the count of a move as a machine word, a terminal is sent the number.
Saves and restores have to alternate, for a terminal keeps one pen and not a stack of them.

* `feed_escapes`: the terminal performs the operations one by one.
* `Obeys.perform`: one operation, performed and taken at its word.
* `escapes_obeyed`: the pen after each operation, what is written and how it looks.
-/
namespace BracketCue.Terminal

/-! ## Operations at their word -/

namespace Cursor

/-- One operation, the count of a move taken as it is. -/
def stride (c : Cursor) : Op → Cursor
  | .left n => c.shift 0 (-n)
  | .right n => c.shift 0 n
  | .up n => c.shift (-n) 0
  | .down n => c.shift n 0
  | op => c.step op

def walk (c : Cursor) (ops : List Op) : Cursor :=
  ops.foldl stride c

def walkWrites (c : Cursor) : List Op → List Write
  | [] => []
  | op :: rest => (op.mark?.map (⟨c.place, ·⟩)).toList ++ (c.stride op).walkWrites rest

theorem stride_of_small {op : Op} (small : op.Small) (c : Cursor) : c.stride op = c.step op := by
  cases op with
  | left n | right n | up n | down n => rw [stride, step, signed_of_lt (small n rfl)]
  | save | restore => rfl
  | highlight ch | unhighlight ch => rfl

theorem walk_of_small {ops : List Op} (small : ∀ op ∈ ops, op.Small) (c : Cursor) :
    c.walk ops = c.run ops ∧ c.walkWrites ops = c.writes ops := by
  induction ops generalizing c with
  | nil => exact ⟨rfl, rfl⟩
  | cons op rest ih =>
    have tail := ih (fun op' h => small op' (List.mem_cons_of_mem _ h)) (c.step op)
    have head := stride_of_small (small op (List.mem_cons_self ..)) c
    rw [walk, List.foldl_cons, walkWrites, writes, head]
    exact ⟨tail.1, congrArg _ tail.2⟩

end Cursor

/-- Saves and restores take turns; `kept` says whether a save is still to be answered. -/
def Alternating : Bool → List Op → Prop
  | _, [] => True
  | kept, .save :: rest => kept = false ∧ Alternating true rest
  | kept, .restore :: rest => kept = true ∧ Alternating false rest
  | kept, _ :: rest => Alternating kept rest

theorem Alternating.of_append {kept : Bool} {a b : List Op} (h : Alternating kept (a ++ b)) :
    Alternating kept a := by
  induction a generalizing kept with
  | nil => trivial
  | cons op rest ih =>
    cases op with
    | save => exact ⟨h.1, ih h.2⟩
    | restore => exact ⟨h.1, ih h.2⟩
    | left n | right n | up n | down n => exact ih h
    | highlight c | unhighlight c => exact ih h

/-! ## Operations performed -/

/-- How a write looks in a style: on the background of the style and in the default foreground if it
is lit, and otherwise with nothing set at all. -/
structure Shows (style : Style) (w : Write) (g : Glyph) : Prop where
  place : g.place = w.place
  char : g.char = w.mark.char
  lit : w.mark.lit = true →
    g.rendition.background = some style.background ∧ g.rendition.foreground = none
  unlit : w.mark.lit = false → g.rendition = .plain

/-- The emulator reads text, its pen is where the cursor is, and it keeps the place that the cursor
keeps. -/
structure Obeys (kept : Bool) (c : Cursor) (t : Emulator) : Prop where
  ready : t.mode = .text
  place : t.pen.place = c.place
  kept_place : kept = true → c.saved.head? = some t.kept.place

section
variable {style : Style} {t : Emulator} {c : Cursor} {kept : Bool} {op : Op} {ops : List Op}

theorem perform_mode (style : Style) (t : Emulator) (op : Op) :
    (t.perform style op).mode = t.mode := by
  cases op <;> rfl

theorem perform_kept (style : Style) (t : Emulator) (h : op ≠ .save) :
    (t.perform style op).kept = t.kept := by
  cases op with
  | save => exact absurd rfl h
  | restore => rfl
  | left n | right n | up n | down n => rfl
  | highlight ch | unhighlight ch => rfl

/-- What is sent for operations is performed one by one. -/
theorem feed_escapes (ready : t.mode = .text)
    (color : 40 ≤ style.background ∧ style.background ≤ 47) (sendable : ∀ op ∈ ops, op.Sendable) :
    t.feed (escapes style ops) = ops.foldl (Emulator.perform style) t := by
  induction ops generalizing t with
  | nil => rfl
  | cons op rest ih =>
    have head := Emulator.feed_op ready color (sendable op (List.mem_cons_self ..))
    have ready' : (t.perform style op).mode = .text := (perform_mode ..).trans ready
    rw [escapes, List.flatMap_cons, Emulator.feed_append, head, List.foldl_cons]
    exact ih ready' fun op' h => sendable op' (List.mem_cons_of_mem _ h)

/-- Moves and saves leave the rendition as it is. -/
theorem perform_rendition (style : Style) (t : Emulator) (writes : op.mark? = none)
    (h : op ≠ .restore) : (t.perform style op).pen.rendition = t.pen.rendition := by
  cases op with
  | restore => exact absurd rfl h
  | left n | right n | up n | down n => rfl
  | save => rfl
  | highlight ch | unhighlight ch => cases writes

theorem foldl_perform_kept (h : .save ∉ ops) :
    (ops.foldl (Emulator.perform style) t).kept = t.kept := by
  induction ops generalizing t with
  | nil => rfl
  | cons op rest ih =>
    have hop : op ≠ .save := by
      rintro rfl
      exact h (List.mem_cons_self ..)
    rw [List.foldl_cons, ih fun hr => h (List.mem_cons_of_mem _ hr), perform_kept style t hop]

/-- One operation is performed and taken at its word. -/
theorem Obeys.perform (o : Obeys kept c t) (style : Style) {rest : List Op}
    (h : Alternating kept (op :: rest)) :
    ∃ kept', Obeys kept' (c.stride op) (t.perform style op) ∧ Alternating kept' rest := by
  obtain ⟨ready, place, keptPlace⟩ := o
  cases op with
  | left n | right n | up n | down n =>
    refine ⟨kept, ⟨ready, ?_, keptPlace⟩, h⟩
    simp only [Emulator.perform, Pen.move, Cursor.stride, Cursor.shift, place]
  | save => exact ⟨true, ⟨ready, place, fun _ => congrArg some place.symm⟩, h.2⟩
  | restore =>
    refine ⟨false, ⟨ready, ?_, fun kept => absurd kept Bool.false_ne_true⟩, h.2⟩
    -- nothing was saved since, so the pen kept last is the one on top of the stack
    obtain ⟨rest', saved⟩ := List.head?_eq_some_iff.1 (keptPlace h.1)
    simp only [Emulator.perform, Cursor.stride, Cursor.step, saved]
  | highlight ch | unhighlight ch =>
    refine ⟨kept, ⟨ready, ?_, keptPlace⟩, h⟩
    simp only [Emulator.perform, Emulator.write, Emulator.dress, Pen.move, Cursor.stride,
      Cursor.step, Cursor.shift, place]

/-- What one operation writes, if it writes. -/
theorem Obeys.shown (o : Obeys kept c t) (style : Style) (op : Op) :
    ∃ shown, (t.perform style op).glyphs = t.glyphs ++ shown ∧
      List.Forall₂ (Shows style) (op.mark?.map (⟨c.place, ·⟩)).toList shown := by
  cases op with
  | left n | right n | up n | down n => exact ⟨[], (List.append_nil _).symm, .nil⟩
  | save | restore => exact ⟨[], (List.append_nil _).symm, .nil⟩
  | highlight ch =>
    exact ⟨[⟨t.pen.place, ch, style.rendition⟩], rfl,
      .cons ⟨o.place, rfl, fun _ => ⟨rfl, rfl⟩, nofun⟩ .nil⟩
  | unhighlight ch =>
    exact ⟨[⟨t.pen.place, ch, .plain⟩], rfl, .cons ⟨o.place, rfl, nofun, fun _ => rfl⟩ .nil⟩

/-- Operations are performed and taken at their word. -/
theorem Obeys.run (o : Obeys kept c t) (style : Style) (h : Alternating kept ops) :
    ∃ kept', Obeys kept' (c.walk ops) (ops.foldl (Emulator.perform style) t) := by
  induction ops generalizing kept c t with
  | nil => exact ⟨kept, o⟩
  | cons op rest ih =>
    obtain ⟨kept', o', h'⟩ := o.perform style h
    exact ih o' h'

/-- What operations write. -/
theorem Obeys.shown_run (o : Obeys kept c t) (style : Style) (h : Alternating kept ops) :
    ∃ shown, (ops.foldl (Emulator.perform style) t).glyphs = t.glyphs ++ shown ∧
      List.Forall₂ (Shows style) (c.walkWrites ops) shown := by
  induction ops generalizing kept c t with
  | nil => exact ⟨[], (List.append_nil _).symm, .nil⟩
  | cons op rest ih =>
    obtain ⟨here, hhere, showsHere⟩ := o.shown style op
    obtain ⟨kept', o', h'⟩ := o.perform style h
    obtain ⟨later, hlater, showsLater⟩ := ih o' h'
    refine ⟨here ++ later, ?_, List.rel_append showsHere showsLater⟩
    rw [List.foldl_cons, hlater, hhere, List.append_assoc]

/-- What is sent for operations, its moves at least one row or column, its characters no control
characters and its saves and restores alternating, is obeyed from any pen. After each operation the
pen is where the operations say, taken at their word. They write what they say, lit characters on
the background of the style and in the default foreground, and the others with nothing set. A
restore gives back the pen of its save, and apart from restores only what writes changes the
rendition. If the counts of the moves fit machine words, their word is what the model cursor makes
of them. -/
theorem escapes_obeyed (style : Style) (ops : List Op) (t : Emulator)
    (color : 40 ≤ style.background ∧ style.background ≤ 47) (sendable : ∀ op ∈ ops, op.Sendable)
    (alternating : Alternating false ops) (ready : t.mode = .text) :
    let start : Cursor := ⟨t.pen.place, []⟩
    let fed := fun ops => t.feed (escapes style ops)
    (∀ done, done <+: ops →
      (fed done).mode = .text ∧ (fed done).pen.place = (start.walk done).place) ∧
    (∃ shown, (fed ops).glyphs = t.glyphs ++ shown ∧
      List.Forall₂ (Shows style) (start.walkWrites ops) shown) ∧
    (∀ before block, before ++ .save :: block ++ [.restore] <+: ops → .save ∉ block →
      (fed (before ++ .save :: block ++ [.restore])).pen = (fed before).pen) ∧
    (∀ before op, before ++ [op] <+: ops → op.mark? = none → op ≠ .restore →
      (fed (before ++ [op])).pen.rendition = (fed before).pen.rendition) ∧
    ((∀ op ∈ ops, op.Small) →
      start.walkWrites ops = start.writes ops ∧
        ∀ done, done <+: ops → start.walk done = start.run done) := by
  intro start fed
  have obeys : Obeys false start t := ⟨ready, rfl, nofun⟩
  have performed : ∀ done, done <+: ops → fed done = done.foldl (Emulator.perform style) t :=
    fun done part => feed_escapes ready color fun op h => sendable op (part.subset h)
  refine ⟨fun done part => ?_, ?_, fun before block part single => ?_,
    fun before op part writes restores => ?_, fun small => ?_⟩
  · rw [performed done part]
    obtain ⟨rest, rfl⟩ := part
    obtain ⟨kept, o⟩ := obeys.run style alternating.of_append
    exact ⟨o.ready, o.place⟩
  · rw [performed ops (List.prefix_refl _)]
    exact obeys.shown_run style alternating
  · have part' : before <+: ops :=
      ((List.prefix_append before _).trans (List.prefix_append _ _)).trans part
    rw [performed _ part, performed _ part', List.foldl_append, List.foldl_append, List.foldl_cons]
    exact foldl_perform_kept single
  · rw [performed _ part, performed _ ((List.prefix_append before _).trans part), List.foldl_append]
    exact perform_rendition style _ writes restores
  · exact ⟨(Cursor.walk_of_small small start).2, fun done part =>
      (Cursor.walk_of_small (fun op h => small op (part.subset h)) start).1⟩

end

/-- A bracket is lit and another one unlit, from a pen that is not plain. -/
theorem escapes_obeyed_two_blocks :
    let style : Style := ⟨true, 42⟩
    let lit : List Op := [.save, .left 31, .right 30, .highlight '[', .left 1, .restore]
    let ops := .left 1 :: lit ++ [.save, .down 10, .unhighlight ']', .restore]
    let t : Emulator := ⟨⟨⟨5, 40⟩, ⟨.faint, some 31, some 44, [4]⟩⟩, ⟨⟨0, 0⟩, .plain⟩, .text, []⟩
    (∀ op ∈ ops, op.Sendable) ∧ Alternating false ops ∧
      (t.feed (escapes style ops)).pen = ⟨⟨5, 39⟩, t.pen.rendition⟩ ∧
      List.Forall₂ (Shows style) [⟨⟨5, 38⟩, '[', true⟩, ⟨⟨15, 39⟩, ']', false⟩]
        (t.feed (escapes style ops)).glyphs := by
  intro style lit ops t
  have sendable : ∀ op ∈ ops, op.Sendable := by decide
  have alternating : Alternating false ops := by simp [ops, lit, Alternating]
  obtain ⟨places, ⟨shown, hshown, shows⟩, blocks, moves, -⟩ :=
    escapes_obeyed style ops t (by decide) sendable alternating rfl
  have place : (t.feed (escapes style ops)).pen.place = ⟨5, 39⟩ :=
    (places ops (List.prefix_refl _)).2
  have second :=
    blocks (.left 1 :: lit) [.down 10, .unhighlight ']'] (List.prefix_refl _) (by decide)
  have first := blocks [.left 1] [.left 31, .right 30, .highlight '[', .left 1] ⟨_, rfl⟩ (by decide)
  have move := moves [] (.left 1) ⟨_, rfl⟩ rfl nofun
  have rendition : (t.feed (escapes style ops)).pen.rendition = t.pen.rendition :=
    (congrArg Pen.rendition (second.trans first)).trans move
  rw [show t.glyphs = [] from rfl, List.nil_append] at hshown
  refine ⟨sendable, alternating, congrArg₂ Pen.mk place rendition, ?_⟩
  rw [hshown]
  exact shows

end BracketCue.Terminal
