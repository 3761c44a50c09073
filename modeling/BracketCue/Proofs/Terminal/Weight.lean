import BracketCue.Proofs.Terminal.Emulator
import Mathlib.Data.List.Forall2

/-!
# The weight of highlighted characters

A style that is bold asks for it in a sequence of its own, and the colors follow in another. The
colors begin with a parameter left out, which a terminal takes for zero and so sets everything back
to its default. Nothing is left of the bold that was asked for, and what is shown bold does not
depend on whether it was.

* `feed_op_worn`: what one operation shows, and how.
* `feed_escapes_worn`: what operations show, however they move, save and restore.
* `bold_as_asked_iff`: when the weight that is shown is the one that was asked for.
-/
namespace BracketCue.Terminal

/-- How a mark is shown in a style, whatever the rendition was before: lit, with the one parameter
of the background selected, and otherwise with nothing set. -/
structure Worn (style : Style) (m : Mark) (g : Glyph) : Prop where
  char : g.char = m.char
  rendition : g.rendition = if m.lit then Rendition.plain.select style.background else .plain

/-- The mark is shown bold if it is lit and the style is bold, and not otherwise. -/
def BoldAsAsked (style : Style) (m : Mark) (g : Glyph) : Prop :=
  g.rendition.intensity = .bold ↔ m.lit = true ∧ style.bold = true

/-- What an operation writes, if it writes, is no control character. -/
def Op.Printable (op : Op) : Prop :=
  ∀ m, op.mark? = some m → isControl m.char = false

instance (op : Op) : Decidable op.Printable :=
  decidable_of_iff (∀ m ∈ op.mark?, isControl m.char = false) Iff.rfl

/-- The one code that sets bold is no code of a background. -/
theorem Rendition.select_plain_bold_iff {code : Nat} :
    (plain.select code).intensity = .bold ↔ code = 1 := by
  refine ⟨?_, fun h => by rw [h]; rfl⟩
  contrapose
  intro other
  -- the colors and the further attributes leave the intensity at its default
  simp only [select, if_neg other, apply_ite Rendition.intensity, plain, ite_self]
  repeat' split
  all_goals nofun

theorem Worn.bold_iff {style : Style} {m : Mark} {g : Glyph} (worn : Worn style m g) :
    g.rendition.intensity = .bold ↔ m.lit = true ∧ style.background = 1 := by
  rw [worn.rendition]
  cases m.lit with
  | true => simp [Rendition.select_plain_bold_iff]
  | false => simp [Rendition.plain]

theorem Worn.boldAsAsked_iff {style : Style} {m : Mark} {g : Glyph} (worn : Worn style m g) :
    BoldAsAsked style m g ↔ (m.lit = true → (style.bold = true ↔ style.background = 1)) := by
  rw [BoldAsAsked, worn.bold_iff, and_congr_right_iff]
  exact imp_congr_right fun _ => Iff.comm

section
variable {t : Emulator} {op : Op} {ops : List Op}

/-- An operation shows what it writes, and leaves the emulator reading text. -/
theorem feed_op_worn (style : Style) (ready : t.mode = .text) (printable : op.Printable) :
    (t.feed (op.escapes style)).mode = .text ∧
      ∃ shown, (t.feed (op.escapes style)).glyphs = t.glyphs ++ shown ∧
        List.Forall₂ (Worn style) op.mark?.toList shown := by
  cases op with
  | left n | right n | up n | down n =>
    rw [Op.escapes, Emulator.feed_moveSequence ready n rfl]
    exact ⟨ready, [], (List.append_nil _).symm, .nil⟩
  | save | restore =>
    obtain ⟨pen, kept, mode, glyphs⟩ := t
    cases ready
    exact ⟨rfl, [], (List.append_nil _).symm, .nil⟩
  | highlight c =>
    let dressed := t.dress (Rendition.plain.select style.background)
    have written : t.feed (Op.escapes style (.highlight c)) = dressed.write c := by
      rw [Op.escapes, Emulator.feed_append, Emulator.feed_highlightSequence_select ready]
      exact Emulator.feed_plain (t := dressed) ready (printable _ rfl)
    rw [written]
    exact ⟨ready, [_], rfl, .cons ⟨rfl, rfl⟩ .nil⟩
  | unhighlight c =>
    have written : t.feed (Op.escapes style (.unhighlight c)) = (t.dress .plain).write c := by
      rw [Op.escapes, Emulator.feed_append, Emulator.feed_plainSequence ready]
      exact Emulator.feed_plain (t := t.dress .plain) ready (printable _ rfl)
    rw [written]
    exact ⟨ready, [_], rfl, .cons ⟨rfl, rfl⟩ .nil⟩

/-- Operations show what they write, in order. -/
theorem feed_escapes_worn (style : Style) (ready : t.mode = .text)
    (printable : ∀ op ∈ ops, op.Printable) :
    ∃ shown, (t.feed (escapes style ops)).glyphs = t.glyphs ++ shown ∧
      List.Forall₂ (Worn style) (ops.filterMap Op.mark?) shown := by
  induction ops generalizing t with
  | nil => exact ⟨[], (List.append_nil _).symm, .nil⟩
  | cons op rest ih =>
    obtain ⟨ready', here, hhere, wornHere⟩ :=
      feed_op_worn style ready (printable op (List.mem_cons_self ..))
    obtain ⟨later, hlater, wornLater⟩ := ih ready' fun op' h =>
      printable op' (List.mem_cons_of_mem _ h)
    refine ⟨here ++ later, ?_, ?_⟩
    · rw [escapes, List.flatMap_cons, Emulator.feed_append, ← List.append_assoc, ← hhere]
      exact hlater
    · rw [filterMap_mark?_cons]
      exact List.rel_append wornHere wornLater

/-- Operations in any style, sent to a terminal with any rendition set. Each character they write is
shown as the style's background alone makes it, or with nothing set if it is not lit. So the weight
shown is the one asked for exactly if nothing is lit or being bold agrees with a background that
itself means bold; with the code of a color for a background nothing is bold at all. -/
theorem bold_as_asked_iff (style : Style) (ops : List Op) (t : Emulator) (ready : t.mode = .text)
    (printable : ∀ op ∈ ops, op.Printable) :
    let marks := ops.filterMap Op.mark?
    ∃ shown, (t.feed (escapes style ops)).glyphs = t.glyphs ++ shown ∧
      List.Forall₂ (Worn style) marks shown ∧
      (List.Forall₂ (BoldAsAsked style) marks shown ↔
        ∀ m ∈ marks, m.lit = true → (style.bold = true ↔ style.background = 1)) ∧
      (40 ≤ style.background → ∀ g ∈ shown, g.rendition.intensity ≠ .bold) := by
  intro marks
  obtain ⟨shown, hshown, worn⟩ := feed_escapes_worn style ready printable
  refine ⟨shown, hshown, worn, ⟨fun asked => ?_, fun agree => ?_⟩, fun color => ?_⟩
  · have both := asked.mp (fun m g asked worn => And.intro (worn.boldAsAsked_iff.1 asked) worn) worn
    exact ((List.forall₂_and_left ..).1 both).1
  · have both := (List.forall₂_and_left ..).2 ⟨agree, worn⟩
    exact both.imp fun m g ⟨agree, worn⟩ => worn.boldAsAsked_iff.2 agree
  · have dull : ∀ g m, Worn style m g → g.rendition.intensity ≠ .bold ∧ Worn style m g := by
      intro g m worn
      refine ⟨fun bold => ?_, worn⟩
      have := (worn.bold_iff.1 bold).2
      omega
    exact ((List.forall₂_and_left ..).1 (worn.flip.imp dull)).1

/-- A style that is not bold, on a terminal that was: the weight is as asked for. -/
theorem bold_as_asked_iff_light :
    let style : Style := ⟨false, 44⟩
    let ops : List Op := [.up 0, .highlight '(', .restore, .unhighlight ')']
    let t : Emulator := ⟨⟨⟨5, 40⟩, ⟨.bold, some 31, none, [4]⟩⟩, ⟨⟨0, 0⟩, .plain⟩, .text, []⟩
    (∀ op ∈ ops, op.Printable) ∧
      List.Forall₂ (BoldAsAsked style) [⟨'(', true⟩, ⟨')', false⟩]
        (t.feed (escapes style ops)).glyphs := by
  intro style ops t
  have printable : ∀ op ∈ ops, op.Printable := by decide
  obtain ⟨shown, hshown, -, asked, -⟩ := bold_as_asked_iff style ops t rfl printable
  rw [show t.glyphs = [] from rfl, List.nil_append] at hshown
  refine ⟨printable, ?_⟩
  rw [hshown]
  exact asked.2 (by decide)

/-- The standard style is bold, and what it lights is shown with normal intensity. -/
theorem standard_not_bold_as_asked :
    let ops : List Op := [.highlight '(']
    let t : Emulator := ⟨⟨⟨0, 0⟩, .plain⟩, ⟨⟨0, 0⟩, .plain⟩, .text, []⟩
    let shown := (t.feed (escapes .standard ops)).glyphs
    Style.standard.bold = true ∧ shown = [⟨⟨0, 0⟩, '(', ⟨.normal, none, some 42, []⟩⟩] ∧
      ¬ List.Forall₂ (BoldAsAsked .standard) (ops.filterMap Op.mark?) shown := by
  intro ops t shown
  have dull : shown = [⟨⟨0, 0⟩, '(', ⟨.normal, none, some 42, []⟩⟩] := by decide
  refine ⟨rfl, dull, fun asked => ?_⟩
  rw [dull] at asked
  cases asked with
  | cons asked _ => exact absurd (asked.2 ⟨rfl, rfl⟩) (by decide)

end

end BracketCue.Terminal
