import BracketCue.Proofs.Line.Run

/-!
# The echo and the blocks

What a key sends begins with the echo, the way of the cursor itself, and all else stands in blocks
between a save and the restore that answers it. Without its blocks it is what an editor sends that
never highlights anything, and the cursors of the two stay together whatever is pressed and
switched.

* `Painter.withoutBlocks_ops`: only the echo is left of the operations of a move.
* `Dark.ops_press`: an editor that is dark sends only the echo.
* `Shadows.after`: a dark editor that is given the same keys stays where the other one is.
* `withoutBlocks_run`: the next key after any run.
-/
namespace BracketCue

open Terminal

/-! ## Operations without their blocks -/

namespace Terminal

/-- Operations without each stretch from a save to the next restore, both included. A save that no
restore follows is left where it is. -/
def withoutBlocks (inBlock : Bool) : List Op → List Op
  | [] => []
  | op :: rest =>
    if inBlock then withoutBlocks (op ≠ .restore) rest
    else if op = .save ∧ .restore ∈ rest then withoutBlocks true rest
    else op :: withoutBlocks false rest

theorem withoutBlocks_append {ops : List Op} (h : .save ∉ ops) (rest : List Op) :
    withoutBlocks false (ops ++ rest) = ops ++ withoutBlocks false rest := by
  induction ops with
  | nil => rfl
  | cons op tail ih =>
    obtain ⟨hop, htail⟩ := List.ne_and_not_mem_of_not_mem_cons h
    have kept : ¬(op = .save ∧ .restore ∈ tail ++ rest) := fun both => hop both.1.symm
    rw [List.cons_append, withoutBlocks, if_neg Bool.false_ne_true, if_neg kept, ih htail]
    rfl

theorem withoutBlocks_restore {body : List Op} (h : .restore ∉ body) (rest : List Op) :
    withoutBlocks true (body ++ .restore :: rest) = withoutBlocks false rest := by
  induction body with
  | nil => rfl
  | cons op tail ih =>
    obtain ⟨hop, htail⟩ := List.ne_and_not_mem_of_not_mem_cons h
    have inside : decide (op ≠ .restore) = true := decide_eq_true (Ne.symm hop)
    rw [List.cons_append, withoutBlocks, if_pos rfl, inside, ih htail]

theorem withoutBlocks_block {body : List Op} (h : .restore ∉ body) (rest : List Op) :
    withoutBlocks false (.save :: body ++ .restore :: rest) = withoutBlocks false rest := by
  have answered : (Op.save = .save ∧ .restore ∈ body ++ .restore :: rest) :=
    ⟨rfl, List.mem_append_right _ (List.mem_cons_self ..)⟩
  rw [List.cons_append, withoutBlocks, if_neg Bool.false_ne_true, if_pos answered,
    withoutBlocks_restore h]

/-- A save that is not answered stays, and all that follows it too. -/
example :
    withoutBlocks false [.left 1, .save, .up 1, .restore, .save, .right 2] =
      [.left 1, .save, .right 2] := by
  decide

theorem Mark.op_ne_restore (m : Mark) : m.op ≠ .restore := by
  obtain ⟨c, lit⟩ := m
  cases lit <;> nofun

end Terminal

/-- The way of the cursor itself from one offset of the text to another. -/
def Screen.echo (s : Screen) (length before after : Nat) : List Op :=
  moves ((s.cellOf length before).travelTo (s.cellOf length after))

namespace Painter

variable {screen : Screen} {text : Text}

theorem withoutBlocks_blockOf (p : Painter) (anchor : Cell) (e : Edit) (rest : List Op) :
    withoutBlocks false (p.blockOf screen text anchor e ++ rest) = withoutBlocks false rest := by
  let way := p.moveStyle.approach anchor (screen.cellOf text.length e.offset)
  have body : .restore ∉ way ++ [e.mark.op, .left 1] := by
    intro h
    rcases List.mem_append.1 h with h | h
    · exact (travels_approach _ _ _).not_mem rfl h
    · simp only [List.mem_cons, List.not_mem_nil, or_false, reduceCtorEq] at h
      exact e.mark.op_ne_restore h.symm
  have := withoutBlocks_block body rest
  rw [← this, blockOf, block]
  simp only [List.cons_append, List.append_assoc, List.nil_append, way]

theorem withoutBlocks_flatMap_blockOf (p : Painter) (anchor : Cell) (edits : List Edit) :
    withoutBlocks false (edits.flatMap (p.blockOf screen text anchor)) = [] := by
  induction edits with
  | nil => rfl
  | cons e rest ih => rw [List.flatMap_cons, withoutBlocks_blockOf, ih]

/-- Only the echo is left of the operations of a move without their blocks. -/
theorem withoutBlocks_ops (p : Painter) (screen : Screen) (text : Text) (change : Change)
    (before after : Nat) :
    withoutBlocks false (p.ops screen text change before after) =
      screen.echo text.length before after := by
  rw [ops_eq, withoutBlocks_append ((travels_moves _).not_mem rfl), withoutBlocks_flatMap_blockOf,
    List.append_nil]
  rfl

end Painter

namespace Editor

/-! ## Editors that never highlight -/

/-- Highlighting is off and nothing is highlighted. -/
structure Dark (e : Editor) : Prop where
  off : e.indicator.enabled = false
  unlit : e.highlight? = none

/-- While highlighting is off, every key takes the highlight away. -/
theorem follow_of_off {e : Editor} (off : e.indicator.enabled = false) (key : Key) :
    e.follow key = e.indicator.clear := by
  unfold follow
  split
  · rfl
  · simp [Indicator.move, off]

theorem highlight?_press_off {e : Editor} (off : e.indicator.enabled = false) (key : Key) :
    (e.press key).1.highlight? = none :=
  congrArg (fun p : Indicator × Change => p.1.current) (follow_of_off off key)

theorem Dark.press {e : Editor} (dark : e.Dark) (key : Key) : (e.press key).1.Dark :=
  ⟨(e.follow_enabled key).trans dark.off, highlight?_press_off dark.off key⟩

theorem Dark.ops_press {e : Editor} (dark : e.Dark) (key : Key) :
    (e.press key).2.ops =
      e.screen.echo e.text.length e.cursor (key.target e.text.length e.cursor) := by
  have change : (e.follow key).2 = .none := by
    rw [follow_of_off dark.off]
    exact congrArg (Change.mk · none) dark.unlit
  show e.painter.ops e.screen e.text (e.follow key).2 _ _ = _
  rw [change, Painter.ops_eq]
  exact List.append_nil _

/-! ## Two editors side by side -/

def Action.key? : Action → Option Key
  | .press key => some key
  | .switch _ => none

def keys (actions : List Action) : List Key :=
  actions.filterMap Action.key?

/-- A dark editor of the same line on the same screen, with its cursor at the same offset. -/
structure Shadows (d e : Editor) : Prop where
  dark : d.Dark
  text_eq : d.text = e.text
  screen_eq : d.screen = e.screen
  cursor_eq : d.cursor = e.cursor

section
variable {d e : Editor}

theorem Shadows.press (h : Shadows d e) (key : Key) :
    Shadows (d.press key).1 (e.press key).1 := by
  refine ⟨h.dark.press key, h.text_eq, h.screen_eq, ?_⟩
  show key.target d.text.length d.cursor = key.target e.text.length e.cursor
  rw [h.text_eq, h.cursor_eq]

theorem Shadows.after (h : Shadows d e) (actions : List Action) :
    Shadows (d.pressKeys (keys actions)).1 (e.after actions) := by
  induction actions generalizing d e with
  | nil => exact h
  | cons a rest ih =>
    cases a with
    | press key =>
      rw [show keys (.press key :: rest) = key :: keys rest from rfl, pressKeys_cons]
      exact ih (h.press key)
    | switch on => exact ih (e := e.setHighlighting on) ⟨h.dark, h.text_eq, h.screen_eq, h.cursor_eq⟩

/-- The same key, pressed in both, sends the same but for the blocks. -/
theorem Shadows.ops_press (h : Shadows d e) (key : Key) :
    withoutBlocks false (e.press key).2.ops = (d.press key).2.ops := by
  rw [h.dark.ops_press key, h.text_eq, h.screen_eq, h.cursor_eq]
  exact e.painter.withoutBlocks_ops _ _ _ _ _

end

end Editor

/-- After any run, the next key sends what it sends in an editor of the same text and screen in which
highlighting has always been off and the same keys were pressed, and apart from that only blocks.
After it the two have the same text and the same cursor. Their settings need have nothing in
common. -/
theorem withoutBlocks_run (text : Text) (screen : Screen) (settings settings' : Settings)
    (actions : List Editor.Action) (key : Key) :
    let e := (Editor.start text screen settings).after actions
    let off := Editor.start text screen { settings' with enabled := false }
    let d := (off.pressKeys (Editor.keys actions)).1
    withoutBlocks false (e.press key).2.ops = (d.press key).2.ops ∧
      (e.press key).1.cursor = (d.press key).1.cursor ∧
      (e.press key).1.text = (d.press key).1.text := by
  intro e off d
  have begins : Editor.Shadows off (Editor.start text screen settings) :=
    ⟨⟨rfl, rfl⟩, rfl, rfl, rfl⟩
  have shadows : Editor.Shadows d e := begins.after actions
  have next := shadows.press key
  exact ⟨shadows.ops_press key, next.cursor_eq.symm, next.text_eq.symm⟩

end BracketCue
