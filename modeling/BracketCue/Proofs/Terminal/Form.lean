import BracketCue.Proofs.Terminal.Obeyed

/-!
# What the operations of a move look like

The operations of one move of the cursor have a fixed form, for any change of the highlight and any
two offsets: the way of the cursor itself, and then a block for each cell that is painted anew. The
form alone says that nothing is ever asked for that a terminal would misunderstand. No move is by
zero, which a terminal takes for one; no block is begun inside another; and each cell is written
once.

* `MoveStyle.goes_approach`: the way to a cell, in either style.
* `Painter.rewrites_blocks`: a highlight has a block for each of its offsets in the text.
* `Orderly.append`: operations of which each part is orderly are orderly.
* `Painter.ops_form`: the operations of a move.
-/
namespace BracketCue

namespace Terminal

/-! ## Forms -/

/-- One move at most, in one of some directions and never by zero. -/
def AtMostOne (directions : List (Nat → Op)) (ops : List Op) : Prop :=
  ops = [] ∨ ∃ direction ∈ directions, ∃ n, 0 < n ∧ ops = [direction n]

/-- A way by the rows and then by the columns. -/
def Direct (way : List Op) : Prop :=
  ∃ rows cols, way = rows ++ cols ∧ AtMostOne [.up, .down] rows ∧ AtMostOne [.left, .right] cols

/-- A way by the rows, then back along the row, then forth along it. -/
def BackAndForth (way : List Op) : Prop :=
  ∃ rows back forth, way = rows ++ back ++ forth ∧ AtMostOne [.up, .down] rows ∧
    AtMostOne [.left] back ∧ AtMostOne [.right] forth

end Terminal

open Terminal

/-- The ways that are gone in a style. -/
def MoveStyle.Goes : MoveStyle → List Op → Prop
  | .relative => Direct
  | .lineStart => BackAndForth

/-- The operations are a block that writes the character of an offset. -/
def MoveStyle.Rewrites (style : MoveStyle) (text : Text) (edit : Char → Op) (offset : Nat)
    (ops : List Op) : Prop :=
  ∃ c way, text[offset]? = some c ∧ style.Goes way ∧
    ops = .save :: way ++ [edit c, .left 1, .restore]

namespace Terminal

/-! ## Ways -/

theorem atMostOne_signed {forth back : Nat → Op} (r : Int) :
    AtMostOne [back, forth]
      (if 0 < r then [forth r.toNat] else if r < 0 then [back (-r).toNat] else []) := by
  split
  · exact .inr ⟨forth, by simp, _, by omega, rfl⟩
  · split
    · exact .inr ⟨back, by simp, _, by omega, rfl⟩
    · exact .inl rfl

theorem atMostOne_count (direction : Nat → Op) (n : Nat) :
    AtMostOne [direction] (if n = 0 then [] else [direction n]) := by
  split
  · exact .inl rfl
  · exact .inr ⟨direction, by simp, n, by omega, rfl⟩

theorem direct_moves (way : Travel) : Direct (moves way) :=
  ⟨_, _, rfl, atMostOne_signed _, atMostOne_signed _⟩

end Terminal

theorem MoveStyle.goes_approach (style : MoveStyle) (start target : Cell) :
    style.Goes (style.approach start target) := by
  cases style with
  | relative => exact direct_moves _
  | lineStart =>
    exact ⟨_, _, _, (List.append_assoc ..).symm, atMostOne_signed _, atMostOne_count _ _,
      atMostOne_count _ _⟩

/-! ## Blocks -/

/-- The blocks of a highlight are one for each of its offsets that the text has, in order. -/
theorem Painter.rewrites_blocks (p : Painter) (screen : Screen) (text : Text) (anchor : Cell)
    (edit : Char → Op) (h : Highlight) :
    ∃ blocks : List (List Op), p.blocks screen text anchor edit h = blocks.flatten ∧
      List.Forall₂ (p.moveStyle.Rewrites text edit)
        ((h.offsets p.paint).filter (· < text.length)) blocks := by
  unfold blocks
  induction h.offsets p.paint with
  | nil => exact ⟨[], rfl, .nil⟩
  | cons o rest ih =>
    obtain ⟨blocks, flat, rewrites⟩ := ih
    rw [List.flatMap_cons, flat]
    by_cases ho : o < text.length
    · have get := List.getElem?_eq_getElem ho
      rw [get, List.filter_cons_of_pos (by simpa using ho)]
      exact ⟨_ :: blocks, rfl, .cons ⟨_, _, get, p.moveStyle.goes_approach .., rfl⟩ rewrites⟩
    · rw [List.getElem?_eq_none (by omega), List.filter_cons_of_neg (by simpa using ho)]
      exact ⟨blocks, rfl, rewrites⟩

/-- If nothing is highlighted there is nothing to write. -/
theorem Painter.rewrites_elim (p : Painter) (screen : Screen) (text : Text) (anchor : Cell)
    (edit : Char → Op) (h : Option Highlight) :
    ∃ blocks : List (List Op), h.elim [] (p.blocks screen text anchor edit) = blocks.flatten ∧
      List.Forall₂ (p.moveStyle.Rewrites text edit)
        ((painted p.paint h).filter (· < text.length)) blocks := by
  cases h with
  | none => exact ⟨[], rfl, .nil⟩
  | some h => exact p.rewrites_blocks screen text anchor edit h

namespace Terminal

/-! ## Order -/

/-- Operations with a number of edits that a terminal understands: no move is by zero, and every
save is answered before the next one. -/
structure Orderly (edits : Nat) (ops : List Op) : Prop where
  moves : ∀ op ∈ ops, op.count? ≠ some 0
  answered : ∀ rest, Alternating false rest → Alternating false (ops ++ rest)
  count : editCount ops = edits

theorem Orderly.alternating {edits : Nat} {ops : List Op} (h : Orderly edits ops) :
    Alternating false ops := by
  have alone := h.answered [] trivial
  rwa [List.append_nil] at alone

theorem Orderly.append {m n : Nat} {a b : List Op} (ha : Orderly m a) (hb : Orderly n b) :
    Orderly (m + n) (a ++ b) where
  moves := List.forall_mem_append.2 ⟨ha.moves, hb.moves⟩
  answered rest after := by
    rw [List.append_assoc]
    exact ha.answered _ (hb.answered rest after)
  count := by rw [editCount, List.countP_append, ← editCount, ← editCount, ha.count, hb.count]

/-- Operations that are orderly one by one, one edit in each, are so together. -/
theorem orderly_flatten {α : Type} {R : α → List Op → Prop} {xs : List α}
    {blocks : List (List Op)} (h : List.Forall₂ R xs blocks)
    (block : ∀ {x ops}, R x ops → Orderly 1 ops) : Orderly xs.length blocks.flatten := by
  induction h with
  | nil => exact ⟨nofun, fun _ => id, rfl⟩
  | cons hd _ ih =>
    rw [List.flatten_cons, List.length_cons, Nat.add_comm]
    exact (block hd).append ih

/-- Moves, none of which is by zero. -/
def Strides (ops : List Op) : Prop :=
  ∀ op ∈ ops, ∃ n, 0 < n ∧ op.count? = some n

theorem Strides.append {a b : List Op} (ha : Strides a) (hb : Strides b) : Strides (a ++ b) :=
  List.forall_mem_append.2 ⟨ha, hb⟩

theorem AtMostOne.strides {directions : List (Nat → Op)} {ops : List Op}
    (h : AtMostOne directions ops)
    (count : ∀ direction ∈ directions, ∀ n, (direction n).count? = some n) : Strides ops := by
  rcases h with rfl | ⟨direction, mem, n, pos, rfl⟩
  · nofun
  · intro op hop
    rw [List.mem_singleton.1 hop]
    exact ⟨n, pos, count direction mem n⟩

theorem Direct.strides {way : List Op} (h : Direct way) : Strides way := by
  obtain ⟨rows, cols, rfl, hrows, hcols⟩ := h
  exact (hrows.strides (by simp [Op.count?])).append (hcols.strides (by simp [Op.count?]))

theorem BackAndForth.strides {way : List Op} (h : BackAndForth way) : Strides way := by
  obtain ⟨rows, back, forth, rfl, hrows, hback, hforth⟩ := h
  exact ((hrows.strides (by simp [Op.count?])).append (hback.strides (by simp [Op.count?]))).append
    (hforth.strides (by simp [Op.count?]))

/-- Moves leave it as it is whether a place is kept. -/
theorem Strides.alternating {ops rest : List Op} (h : Strides ops) (kept : Bool) :
    Alternating kept (ops ++ rest) ↔ Alternating kept rest := by
  induction ops with
  | nil => rfl
  | cons op tail ih =>
    obtain ⟨⟨n, -, hn⟩, htail⟩ := List.forall_mem_cons.1 h
    rw [← ih htail]
    cases op with
    | left m | right m | up m | down m => rfl
    | save | restore => cases hn
    | highlight c | unhighlight c => cases hn

theorem Strides.orderly {ops : List Op} (h : Strides ops) : Orderly 0 ops where
  moves op hop zero := by
    obtain ⟨n, pos, hn⟩ := h op hop
    rw [hn] at zero
    cases zero
    exact absurd pos (Nat.lt_irrefl 0)
  answered _ := (h.alternating false).2
  count := by
    rw [editCount, List.countP_eq_zero]
    intro op hop
    obtain ⟨n, -, hn⟩ := h op hop
    cases op with
    | left m | right m | up m | down m => simp [Op.isEdit]
    | save | restore => cases hn
    | highlight c | unhighlight c => cases hn

theorem Op.count?_of_isEdit {op : Op} (h : op.isEdit = true) : op.count? = none := by
  cases op with
  | highlight c | unhighlight c => rfl
  | left n | right n | up n | down n => cases h
  | save | restore => cases h

/-- A block is orderly: its save is answered at its end. -/
theorem Strides.orderly_block {way : List Op} (h : Strides way) {edit : Op}
    (hedit : edit.isEdit = true) :
    Orderly 1 (.save :: way ++ [edit, .left 1, .restore]) where
  moves op hop zero := by
    simp only [List.cons_append, List.mem_cons, List.mem_append, List.not_mem_nil, or_false] at hop
    rcases hop with rfl | hop | rfl | rfl | rfl
    · cases zero
    · exact h.orderly.moves op hop zero
    · rw [Op.count?_of_isEdit hedit] at zero
      cases zero
    · cases zero
    · cases zero
  answered rest after := by
    have back : Alternating true (edit :: .left 1 :: .restore :: rest) := by
      cases edit with
      | highlight c | unhighlight c => exact ⟨rfl, after⟩
      | left n | right n | up n | down n => cases hedit
      | save | restore => cases hedit
    rw [List.cons_append, List.cons_append, List.append_assoc]
    exact ⟨rfl, (h.alternating true).2 back⟩
  count := by
    have none : way.countP Op.isEdit = 0 := h.orderly.count
    have rest : [edit, .left 1, .restore].countP Op.isEdit = 1 := by
      rw [List.countP_cons_of_pos hedit]
      rfl
    rw [editCount, List.cons_append, List.countP_cons_of_neg (by decide), List.countP_append, none,
      rest]

end Terminal

theorem MoveStyle.Goes.strides {style : MoveStyle} {way : List Op} (h : style.Goes way) :
    Strides way := by
  cases style with
  | relative => exact Direct.strides h
  | lineStart => exact BackAndForth.strides h

theorem MoveStyle.Rewrites.orderly {style : MoveStyle} {text : Text} {edit : Char → Op}
    (hedit : ∀ c, (edit c).isEdit = true) {o : Nat} {ops : List Op}
    (h : style.Rewrites text edit o ops) : Orderly 1 ops := by
  obtain ⟨c, way, -, goes, rfl⟩ := h
  exact goes.strides.orderly_block (hedit c)

/-- The operations of a move are the way of the cursor, in one move for the rows and one for the
columns at most, then a block for each offset of the text that is erased and then one for each that
is drawn, in the order in which they are painted. Offsets that the text does not have are passed
over. No move is by zero, no block begins in another, and as many characters are written as there
are blocks. -/
theorem Painter.ops_form (p : Painter) (screen : Screen) (text : Text) (change : Change)
    (before after : Nat) :
    let ops := p.ops screen text change before after
    let erased := (painted p.paint change.erased).filter (· < text.length)
    let drawn := (painted p.paint change.drawn).filter (· < text.length)
    (∃ (echo : List Op) (erasing drawing : List (List Op)),
      ops = echo ++ erasing.flatten ++ drawing.flatten ∧ Direct echo ∧
        List.Forall₂ (p.moveStyle.Rewrites text .unhighlight) erased erasing ∧
        List.Forall₂ (p.moveStyle.Rewrites text .highlight) drawn drawing) ∧
      (∀ op ∈ ops, op.count? ≠ some 0) ∧ Alternating false ops ∧
      editCount ops = erased.length + drawn.length := by
  intro ops erased drawn
  obtain ⟨erasing, hErasing, erases⟩ := p.rewrites_elim screen text
    (screen.cellOf text.length after) .unhighlight change.erased
  obtain ⟨drawing, hDrawing, draws⟩ := p.rewrites_elim screen text
    (screen.cellOf text.length after) .highlight change.drawn
  let way := (screen.cellOf text.length before).travelTo (screen.cellOf text.length after)
  have parts : ops = moves way ++ erasing.flatten ++ drawing.flatten := by
    rw [← hErasing, ← hDrawing]
    rfl
  -- from here on the form says it all, and the operations need not be computed
  clear_value ops
  have orderly : Orderly (0 + erased.length + drawn.length) ops := by
    rw [parts]
    exact ((direct_moves way).strides.orderly.append
      (orderly_flatten erases fun h => h.orderly fun _ => rfl)).append
      (orderly_flatten draws fun h => h.orderly fun _ => rfl)
  exact ⟨⟨moves way, erasing, drawing, parts, direct_moves way, erases, draws⟩, orderly.moves,
    orderly.alternating, by rw [orderly.count, Nat.zero_add]⟩

end BracketCue
