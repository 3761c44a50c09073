import BracketCue.Proofs.Terminal.Writes

/-!
# Terminals with edges

A real terminal is not endless as the model cursor believes. Its moves stop at the edges, a
character written in the last column leaves the cursor where it is, and it can keep only one place.

The two agree as long as operations are *tame*: the model cursor stays inside the edges, apart from
the one column that writing in the last column takes it too far; and from the time a place is kept
until it is restored there is one character written and no other place kept. The character is
written where both cursors are, and what they do from then on is forgotten when they are restored.

* `Agrees.step`: what one operation keeps true of the two cursors.
* `Tame.run`: tame operations take both cursors to the same cell, and write the same.
* `Tame.admits`: on the way the model cursor stays inside.
* `tame_ops`: the operations of a move of the cursor are tame.
-/
namespace BracketCue

open Terminal

/-- A cell as a place, however large its coordinates are. -/
def Cell.point (c : Cell) : Place :=
  ⟨c.row, c.col⟩

theorem Cell.point_inj {a b : Cell} : a.point = b.point ↔ a = b := by
  obtain ⟨row, col⟩ := a
  obtain ⟨row', col'⟩ := b
  simp only [point, Place.mk.injEq, Cell.mk.injEq]
  omega

theorem Cell.Small.point_eq {c : Cell} (h : c.Small) : c.point = c.place :=
  h.place_eq.symm

theorem Cell.Small.cell_start {c : Cell} (h : c.Small) : (Cursor.start c).cell = c := by
  rw [Cursor.start, Cursor.cell, signed_of_lt h.1, signed_of_lt h.2]
  rfl

namespace Terminal

/-- The edges of a terminal: the number of its columns, and its last row. -/
structure Frame where
  columns : Columns
  lastRow : Nat

/-- The cursor of a terminal with edges: where it is, and the one cell that is kept. -/
structure Pointer where
  cell : Cell
  kept : Cell
  deriving DecidableEq, Repr

namespace Frame

/-- The cell inside the edges that is nearest to a place. -/
def clamp (f : Frame) (p : Place) : Cell :=
  ⟨(min p.row f.lastRow).toNat, (min p.col (f.columns.count - 1)).toNat⟩

/-- One operation. Moves stop at the edges, every save overwrites the cell kept before, and a
character written in the last column leaves the cursor there. -/
def step (f : Frame) (p : Pointer) : Op → Pointer
  | .left n => { p with cell := f.clamp ⟨p.cell.row, p.cell.col - n⟩ }
  | .right n => { p with cell := f.clamp ⟨p.cell.row, p.cell.col + n⟩ }
  | .up n => { p with cell := f.clamp ⟨p.cell.row - n, p.cell.col⟩ }
  | .down n => { p with cell := f.clamp ⟨p.cell.row + n, p.cell.col⟩ }
  | .save => { p with kept := p.cell }
  | .restore => { p with cell := p.kept }
  | .highlight _ | .unhighlight _ =>
    { p with
      cell :=
        if p.cell.col + 1 < f.columns.count then ⟨p.cell.row, p.cell.col + 1⟩ else p.cell }

def run (f : Frame) (p : Pointer) (ops : List Op) : Pointer :=
  ops.foldl f.step p

def writes (f : Frame) (p : Pointer) : List Op → List Write
  | [] => []
  | op :: rest => (op.mark?.map (⟨p.cell.point, ·⟩)).toList ++ f.writes (f.step p op) rest

structure Holds (f : Frame) (c : Cell) : Prop where
  row_le : c.row ≤ f.lastRow
  col_lt : c.col < f.columns.count

/-- A place for the model cursor to be at after an operation: inside the edges, or one column
further just after it wrote a character. -/
structure Admits (f : Frame) (op : Op) (p : Place) : Prop where
  row_nonneg : 0 ≤ p.row
  row_le : p.row ≤ f.lastRow
  col_nonneg : 0 ≤ p.col
  col_le : p.col ≤ f.columns.count
  col_lt : op.isEdit = false → p.col < f.columns.count

theorem Holds.admits {f : Frame} {c : Cell} (h : f.Holds c) (op : Op) : f.Admits op c.point := by
  obtain ⟨hrow, hcol⟩ := h
  constructor <;> simp only [Cell.point] <;> omega

theorem Admits.clamp {f : Frame} {op : Op} {p : Place} (h : f.Admits op p)
    (moves : op.isEdit = false) : p = (f.clamp p).point ∧ f.Holds (f.clamp p) := by
  obtain ⟨row, col⟩ := p
  obtain ⟨row0, row1, col0, -, col1⟩ := h
  have col2 := col1 moves
  dsimp only at row0 row1 col0 col2
  refine ⟨?_, ⟨?_, ?_⟩⟩
  · simp only [Frame.clamp, Cell.point, Place.mk.injEq]; omega
  · simp only [Frame.clamp]; omega
  · simp only [Frame.clamp]; omega

/-- A cell that the model cursor may be at is read off as it is. -/
theorem Admits.point_cell {f : Frame} {op : Op} {c : Cursor} (h : f.Admits op c.place) :
    c.cell.point = c.place := by
  obtain ⟨⟨row, col⟩, saved⟩ := c
  have := h.row_nonneg
  have := h.col_nonneg
  simp only [Cursor.cell, Cell.point, Place.mk.injEq] at *
  omega

end Frame

/-! ## Phases -/

/-- How far the writing of one character has come. -/
inductive Phase
  /-- The cursor is where it belongs. -/
  | home
  /-- Its place is kept and it is on the way to a cell. -/
  | away
  /-- The character is written. -/
  | written
  deriving DecidableEq, Repr

/-- The phase after an operation, unless it is out of place. -/
def Phase.next : Phase → Op → Option Phase
  | phase, .left _ | phase, .right _ | phase, .up _ | phase, .down _ => some phase
  | .home, .save => some .away
  | .away, .highlight _ | .away, .unhighlight _ => some .written
  | .written, .restore => some .home
  | _, _ => none

theorem Phase.next_of_count {op : Op} {n : Nat} (h : op.count? = some n) (phase : Phase) :
    phase.next op = some phase := by
  cases op with
  | left m | right m | up m | down m => cases phase <;> rfl
  | save | restore => cases h
  | highlight ch | unhighlight ch => cases h

theorem Mark.next_op (m : Mark) : Phase.away.next m.op = some .written := by
  obtain ⟨c, lit⟩ := m
  cases lit <;> rfl

/-- Operations that lead from one phase to another, each in its place and leaving the model cursor
inside the edges. -/
inductive Tame (f : Frame) : Phase → Cursor → List Op → Phase → Prop
  | nil {phase c} : Tame f phase c [] phase
  | cons {phase next last c op rest} (hnext : phase.next op = some next) (small : op.Small)
      (admits : f.Admits op (c.step op).place) (tail : Tame f next (c.step op) rest last) :
      Tame f phase c (op :: rest) last

/-- The model cursor and that of a terminal with edges. Until the character is written they are at
the same cell, and as long as a cell is kept they keep the same. -/
structure Agrees (f : Frame) (phase : Phase) (c : Cursor) (p : Pointer) : Prop where
  here : phase ≠ .written → c.place = p.cell.point ∧ f.Holds p.cell
  kept : phase ≠ .home → c.saved.head? = some p.kept.point ∧ f.Holds p.kept

variable {f : Frame} {phase next last : Phase} {c : Cursor} {p : Pointer} {op : Op}

/-- A move that leaves the model cursor inside the edges takes the other one to the same cell. -/
theorem step_move {n : Nat} (hn : op.count? = some n) (small : n < 2 ^ 63)
    (admits : f.Admits op (c.step op).place) (here : c.place = p.cell.point) :
    (c.step op).place = (f.step p op).cell.point ∧ f.Holds (f.step p op).cell := by
  have reaches : ∀ q, (c.step op).place = q → op.isEdit = false →
      (c.step op).place = (f.clamp q).point ∧ f.Holds (f.clamp q) := by
    rintro q rfl moves
    exact admits.clamp moves
  cases op with
  | left m | right m | up m | down m =>
    cases hn
    refine reaches _ ?_ rfl
    simp [Cursor.step, Cursor.shift, here, Cell.point, signed_of_lt small, Int.sub_eq_add_neg]
  | save | restore => cases hn
  | highlight ch | unhighlight ch => cases hn

theorem step_saved (f : Frame) (c : Cursor) (p : Pointer) (op : Op) (hs : op ≠ .save)
    (hr : op ≠ .restore) :
    (c.step op).saved = c.saved ∧ (f.step p op).kept = p.kept := by
  cases op with
  | left m | right m | up m | down m => exact ⟨rfl, rfl⟩
  | save => exact absurd rfl hs
  | restore => exact absurd rfl hr
  | highlight ch | unhighlight ch => exact ⟨rfl, rfl⟩

theorem Mark.step_op (m : Mark) (c : Cursor) : c.step m.op = c.shift 0 1 := by
  obtain ⟨ch, lit⟩ := m
  cases lit <;> rfl

theorem Mark.isEdit_op (m : Mark) : m.op.isEdit = true := by
  obtain ⟨ch, lit⟩ := m
  cases lit <;> rfl

theorem Mark.small_op (m : Mark) : m.op.Small := by
  obtain ⟨ch, lit⟩ := m
  cases lit <;> (intro n hn; cases hn)

/-- A character is written with the model cursor going one column past its cell. -/
theorem Frame.Holds.admits_past {b : Cell} (h : f.Holds b) (m : Mark) :
    f.Admits m.op ⟨b.row, b.col + 1⟩ := by
  obtain ⟨hrow, hcol⟩ := h
  refine ⟨?_, ?_, ?_, ?_, fun edit => ?_⟩
  · dsimp only; omega
  · dsimp only; omega
  · dsimp only; omega
  · dsimp only; omega
  · rw [m.isEdit_op] at edit
    cases edit

/-- What can come next: a move in any phase, and otherwise the one operation that ends the phase. -/
theorem Phase.next_cases (h : phase.next op = some next) :
    (∃ n, op.count? = some n ∧ next = phase) ∨
      (op = .save ∧ phase = .home ∧ next = .away) ∨
      (∃ m, op.mark? = some m ∧ phase = .away ∧ next = .written) ∨
      (op = .restore ∧ phase = .written ∧ next = .home) := by
  cases op with
  | left n | right n | up n | down n =>
    cases phase <;> cases h <;> exact .inl ⟨n, rfl, rfl⟩
  | save => cases phase <;> cases h; exact .inr (.inl ⟨rfl, rfl, rfl⟩)
  | restore => cases phase <;> cases h; exact .inr (.inr (.inr ⟨rfl, rfl, rfl⟩))
  | highlight ch | unhighlight ch =>
    cases phase <;> cases h; exact .inr (.inr (.inl ⟨_, rfl, rfl, rfl⟩))

/-- One operation, in its place and leaving the model cursor inside, keeps the two in agreement. -/
theorem Agrees.step (a : Agrees f phase c p) (hnext : phase.next op = some next)
    (small : op.Small) (admits : f.Admits op (c.step op).place) :
    Agrees f next (c.step op) (f.step p op) := by
  rcases Phase.next_cases hnext with
    ⟨n, hn, rfl⟩ | ⟨rfl, rfl, rfl⟩ | ⟨m, hm, rfl, rfl⟩ | ⟨rfl, rfl, rfl⟩
  · obtain ⟨hsaved, hkept⟩ := step_saved f c p op (by rintro rfl; cases hn)
      (by rintro rfl; cases hn)
    refine ⟨fun h => step_move hn (small n hn) admits (a.here h).1, fun h => ?_⟩
    rw [hsaved, hkept]
    exact a.kept h
  · have here := a.here (by decide)
    exact ⟨fun _ => here, fun _ => ⟨congrArg some here.1, here.2⟩⟩
  · -- where the cursors are after the character is of no account, since they will be restored
    obtain ⟨hsaved, hkept⟩ := step_saved f c p op (by rintro rfl; cases hm)
      (by rintro rfl; cases hm)
    refine ⟨fun h => absurd rfl h, fun _ => ?_⟩
    rw [hsaved, hkept]
    exact a.kept (by decide)
  · obtain ⟨hsaved, holds⟩ := a.kept (by decide)
    refine ⟨fun _ => ⟨?_, holds⟩, fun h => absurd rfl h⟩
    obtain ⟨place, saved⟩ := c
    cases saved with
    | nil => cases hsaved
    | cons first rest => exact Option.some.inj hsaved

/-- A character is written only while the cursors are at the same cell. -/
theorem Agrees.mark_place (a : Agrees f phase c p) (hnext : phase.next op = some next) :
    op.mark?.map (Write.mk p.cell.point) = op.mark?.map (Write.mk c.place) := by
  rcases Phase.next_cases hnext with ⟨n, hn, -⟩ | ⟨rfl, -, -⟩ | ⟨m, -, rfl, -⟩ | ⟨rfl, -, -⟩
  · cases op with
    | left m | right m | up m | down m => rfl
    | save | restore => cases hn
    | highlight ch | unhighlight ch => cases hn
  · rfl
  · rw [(a.here (by decide)).1]
  · rfl

/-! ## Runs -/

namespace Tame

variable {ops : List Op}

theorem append {middle : Phase} {a b : List Op} (ha : Tame f phase c a middle)
    (hb : Tame f middle (c.run a) b last) : Tame f phase c (a ++ b) last := by
  induction ha with
  | nil => exact hb
  | cons hnext small admits _ ih => exact .cons hnext small admits (ih hb)

/-- Tame operations keep the two cursors in agreement, and write the same with either. -/
theorem run (t : Tame f phase c ops last) (a : Agrees f phase c p) :
    Agrees f last (c.run ops) (f.run p ops) ∧ f.writes p ops = c.writes ops := by
  induction t generalizing p with
  | nil => exact ⟨a, rfl⟩
  | cons hnext small admits _ ih =>
    obtain ⟨agrees, writes⟩ := ih (a.step hnext small admits)
    refine ⟨agrees, ?_⟩
    rw [Frame.writes, Cursor.writes, writes]
    exact congrArg (·.toList ++ _) (a.mark_place hnext)

/-- Tame operations never take the model cursor out of the edges. -/
theorem admits (t : Tame f phase c ops last) {n : Nat} (hn : ops[n]? = some op) :
    f.Admits op (c.run (ops.take (n + 1))).place := by
  induction t generalizing n with
  | nil => cases hn
  | cons hnext small admits _ ih =>
    cases n with
    | zero =>
      cases hn
      exact admits
    | succ n => exact ih hn

end Tame

/-! ## The operations of a move of the cursor -/

/-- A signed distance is gone in one move at most. -/
theorem signed_move_cases {forth back : Nat → Op} (hf : ∀ n, (forth n).count? = some n)
    (hb : ∀ n, (back n).count? = some n) (r : Int) :
    let ops := if 0 < r then [forth r.toNat] else if r < 0 then [back (-r).toNat] else []
    ops = [] ∨ ∃ op, ops = [op] ∧ op.count? = some r.natAbs := by
  intro ops
  rcases Int.lt_trichotomy 0 r with h | h | h
  · refine .inr ⟨_, if_pos h, ?_⟩
    rw [hf]
    exact congrArg some (by omega)
  · exact .inl ((if_neg (by omega)).trans (if_neg (by omega)))
  · refine .inr ⟨_, (if_neg (by omega)).trans (if_pos h), ?_⟩
    rw [hb]
    exact congrArg some (by omega)

theorem count_move_cases {op : Op} {n : Nat} (h : op.count? = some n) :
    let ops := if n = 0 then [] else [op]
    ops = [] ∨ ∃ op, ops = [op] ∧ op.count? = some n := by
  intro ops
  by_cases h0 : n = 0
  · exact .inl (if_pos h0)
  · exact .inr ⟨op, if_neg h0, h⟩

/-- One move at most, to a cell inside the edges. -/
theorem Tame.single {ops : List Op} {n : Nat} {b : Cell}
    (h : ops = [] ∨ ∃ op, ops = [op] ∧ op.count? = some n) (small : n < 2 ^ 63)
    (hb : f.Holds b) (lands : (c.run ops).place = b.point) : Tame f phase c ops phase := by
  rcases h with rfl | ⟨op, rfl, hn⟩
  · exact .nil
  · refine .cons (Phase.next_of_count hn phase) ?_ (lands ▸ hb.admits op) .nil
    intro m hm
    rw [hn] at hm
    cases hm
    exact small

/-- Writing a character, stepping back over it and going home. -/
theorem tame_write (m : Mark) {a b : Cell} (ha : f.Holds a) (hb : f.Holds b) (rest : List Place) :
    Tame f .away ⟨b.point, a.point :: rest⟩ [m.op, .left 1, .restore] .home := by
  have wrote : (Cursor.mk b.point (a.point :: rest)).step m.op =
      ⟨⟨b.row, b.col + 1⟩, a.point :: rest⟩ := by
    rw [m.step_op]
    simp [Cursor.shift, Cell.point]
  have back : (Cursor.mk ⟨b.row, b.col + 1⟩ (a.point :: rest)).step (.left 1) =
      ⟨b.point, a.point :: rest⟩ := by
    have one : signed 1 = 1 := signed_of_lt (by decide)
    simp [Cursor.step, Cursor.shift, Cell.point, one]
  refine .cons m.next_op m.small_op (wrote ▸ hb.admits_past m) ?_
  rw [wrote]
  refine .cons rfl (fun n hn => by cases hn; decide) (back ▸ hb.admits _) ?_
  rw [back]
  exact .cons rfl (fun n hn => by cases hn) (ha.admits _) .nil

section
variable (phase) {a b : Cell} (here : c.place = a.point) (smallA : a.Small) (smallB : b.Small)
include here smallA smallB

theorem tame_vertical (hb : f.Holds ⟨b.row, a.col⟩) :
    let way := vertical (a.travelTo b).rows
    Tame f phase c way phase ∧ (c.run way).place = Cell.point ⟨b.row, a.col⟩ := by
  rw [smallA.travelTo_eq smallB]
  intro way
  obtain ⟨rowA, -⟩ := smallA
  obtain ⟨rowB, -⟩ := smallB
  have small : ((b.row : Int) - a.row).natAbs < 2 ^ 63 := by omega
  have lands : (c.run way).place = Cell.point ⟨b.row, a.col⟩ := by
    obtain ⟨d, hrun, went⟩ := run_vertical c ((b.row : Int) - a.row)
    rw [hrun, went.exact small]
    simp only [Cursor.shift, here, Cell.point, Place.mk.injEq]; omega
  exact ⟨.single (signed_move_cases (fun _ => rfl) (fun _ => rfl) _) small hb lands, lands⟩

theorem tame_horizontal (hb : f.Holds ⟨a.row, b.col⟩) :
    let way := horizontal (a.travelTo b).cols
    Tame f phase c way phase ∧ (c.run way).place = Cell.point ⟨a.row, b.col⟩ := by
  rw [smallA.travelTo_eq smallB]
  intro way
  obtain ⟨-, colA⟩ := smallA
  obtain ⟨-, colB⟩ := smallB
  have small : ((b.col : Int) - a.col).natAbs < 2 ^ 63 := by omega
  have lands : (c.run way).place = Cell.point ⟨a.row, b.col⟩ := by
    obtain ⟨d, hrun, went⟩ := run_horizontal c ((b.col : Int) - a.col)
    rw [hrun, went.exact small]
    simp only [Cursor.shift, here, Cell.point, Place.mk.injEq]; omega
  exact ⟨.single (signed_move_cases (fun _ => rfl) (fun _ => rfl) _) small hb lands, lands⟩

theorem tame_viaLeftEdge (ha : f.Holds a) (hb : f.Holds ⟨a.row, b.col⟩) :
    let way := viaLeftEdge a.col b.col
    Tame f phase c way phase ∧ (c.run way).place = Cell.point ⟨a.row, b.col⟩ := by
  intro way
  obtain ⟨-, colA⟩ := smallA
  obtain ⟨-, colB⟩ := smallB
  have edge : f.Holds ⟨a.row, 0⟩ := ⟨ha.row_le, f.columns.count_pos⟩
  have toEdge :
      (c.run (if a.col = 0 then [] else [.left a.col])).place = Cell.point ⟨a.row, 0⟩ := by
    rw [run_left, signed_of_lt colA]
    simp only [Cursor.shift, here, Cell.point, Place.mk.injEq]; omega
  have lands : (c.run way).place = Cell.point ⟨a.row, b.col⟩ := by
    rw [show way = viaLeftEdge a.col b.col from rfl, run_viaLeftEdge, signed_of_lt colA,
      signed_of_lt colB]
    simp only [Cursor.shift, here, Cell.point, Place.mk.injEq]; omega
  refine ⟨.append (.single (count_move_cases rfl) colA edge toEdge)
    (.single (count_move_cases rfl) colB hb ?_), lands⟩
  rw [← Cursor.run_append]
  exact lands

/-- Either way of going from one cell to another stays inside the edges, if both cells are. -/
theorem tame_approach (style : MoveStyle) (ha : f.Holds a) (hb : f.Holds b) :
    let way := style.approach a b
    Tame f phase c way phase ∧ (c.run way).place = b.point := by
  have turn : f.Holds ⟨b.row, a.col⟩ := ⟨hb.row_le, ha.col_lt⟩
  have smallTurn : Cell.Small ⟨b.row, a.col⟩ := ⟨smallB.1, smallA.2⟩
  obtain ⟨rows, there⟩ := tame_vertical phase here smallA smallB turn
  cases style with
  | relative =>
    obtain ⟨cols, lands⟩ := tame_horizontal phase there smallTurn smallB hb
    -- the turn is in the column where the way began, so the columns left to go are the same
    rw [show (Cell.travelTo ⟨b.row, a.col⟩ b).cols = (a.travelTo b).cols from rfl] at cols lands
    refine ⟨rows.append cols, ?_⟩
    rw [MoveStyle.approach, moves, Cursor.run_append]
    exact lands
  | lineStart =>
    obtain ⟨cols, lands⟩ := tame_viaLeftEdge phase there smallTurn smallB turn hb
    refine ⟨rows.append cols, ?_⟩
    rw [MoveStyle.approach, Cursor.run_append]
    exact lands

/-- A block leaves the edges only for the column past its cell, and is at home again at its end. -/
theorem tame_block (p : Painter) (m : Mark) (ha : f.Holds a) (hb : f.Holds b) :
    Tame f .home c (p.block a b m.op) .home := by
  obtain ⟨way, lands⟩ := tame_approach .away (c := c.step .save) here smallA smallB p.moveStyle
    ha hb
  obtain ⟨rows, cols, hrun, -, -⟩ := run_approach p.moveStyle a b (c.step .save)
  have there : (c.step .save).run (p.moveStyle.approach a b) = ⟨b.point, a.point :: c.saved⟩ := by
    rw [hrun] at lands ⊢
    rw [← lands, ← here]
    rfl
  refine .cons rfl (fun n hn => by cases hn) (here ▸ ha.admits _) (way.append ?_)
  rw [there]
  exact tame_write m ha hb c.saved

end

end Terminal

/-- The edges of a terminal with just the rows of a displayed line. -/
def Screen.frame (s : Screen) (length : Nat) : Frame :=
  ⟨s.columns, s.lineOffset length / s.columns.count⟩

theorem Screen.frame_holds (s : Screen) (length o : Nat) :
    (s.frame length).Holds (s.cellOf length o) :=
  ⟨Nat.div_le_div_right (Nat.min_le_right _ _), s.columns.cellAt_col_lt _ _⟩

namespace Painter

variable {screen : Screen} {text : Text} {c : Cursor} {o : Nat}

theorem tame_flatMap_blockOf (p : Painter) (fits : screen.Fits text)
    (here : c.place = (screen.cellOf text.length o).point) (edits : List Edit) :
    Tame (screen.frame text.length) .home c
      (edits.flatMap (p.blockOf screen text (screen.cellOf text.length o))) .home := by
  induction edits with
  | nil => exact .nil
  | cons e rest ih =>
    rw [List.flatMap_cons]
    refine Tame.append (tame_block here (fits.small o) (fits.small e.offset) p e.mark
      (screen.frame_holds ..) (screen.frame_holds ..)) ?_
    rw [show c.run _ = c from p.run_blockOf c _ e]
    exact ih

/-- The operations of a move of the cursor are tame. -/
theorem tame_ops (p : Painter) (fits : screen.Fits text)
    (here : c.place = (screen.cellOf text.length o).point) (change : Change) (after : Nat) :
    Tame (screen.frame text.length) .home c (p.ops screen text change o after) .home := by
  obtain ⟨echo, there⟩ := tame_approach (f := screen.frame text.length) .home here
    (fits.small o) (fits.small after) .relative (screen.frame_holds ..) (screen.frame_holds ..)
  rw [ops_eq]
  exact echo.append (p.tame_flatMap_blockOf fits there _)

end Painter
end BracketCue
