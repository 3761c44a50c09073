import BracketCue.Proofs.Highlight.Painted
import BracketCue.Proofs.Screen.Fit
import BracketCue.Terminal.Painter

/-!
# Where characters are written

The model cursor knows where it is when it is told to write, so a run of operations comes down to
the list of its writes: at which place, which character, with the highlight on or off.

The operations of one move of the cursor are no more than that: whatever the style of the moves
and wherever the line wraps, they write the characters of the change into their own cells and end
where the cursor belongs. On a line that fits machine words this is exact, and on any other it holds
of places as machine words hold them; `Follows` is what the two have in common.

* `Follows.exact`, `Follows.wrapped`: the two ways to look at a place.
* `Painter.run_ops`: the operations take the cursor from the old cell to the new one.
* `Painter.writes_ops`: they write the edits of the change, each in its cell and in order.
-/
namespace BracketCue.Terminal

structure Mark where
  char : Char
  lit : Bool
  deriving DecidableEq, Repr

/-- A character written at a place. -/
structure Write where
  place : Place
  mark : Mark
  deriving DecidableEq, Repr

/-- A write at its place as one looks at it. -/
def Write.seen (look : Place → Place) (w : Write) : Write :=
  ⟨look w.place, w.mark⟩

theorem map_seen_id (ws : List Write) : ws.map (·.seen id) = ws :=
  List.map_id ws

def Op.mark? : Op → Option Mark
  | .highlight c => some ⟨c, true⟩
  | .unhighlight c => some ⟨c, false⟩
  | _ => none

theorem Op.isEdit_eq_isSome (op : Op) : op.isEdit = op.mark?.isSome := by
  cases op <;> rfl

theorem filterMap_mark?_cons (op : Op) (rest : List Op) :
    (op :: rest).filterMap Op.mark? = op.mark?.toList ++ rest.filterMap Op.mark? := by
  rw [List.filterMap_cons]
  cases op.mark? <;> rfl

/-- How many rows or columns an operation moves, if it moves. -/
def Op.count? : Op → Option Nat
  | .left n | .right n | .up n | .down n => some n
  | _ => none

/-- The number of rows or columns of a move fits a signed machine word. -/
def Op.Small (op : Op) : Prop :=
  ∀ n, op.count? = some n → n < 2 ^ 63

/-- The operation that writes a mark. -/
def Mark.op (m : Mark) : Op :=
  if m.lit then .highlight m.char else .unhighlight m.char

theorem Mark.mark?_op (m : Mark) : m.op.mark? = some m := by
  obtain ⟨c, lit⟩ := m
  cases lit <;> rfl

namespace Cursor

def writes (c : Cursor) : List Op → List Write
  | [] => []
  | op :: rest => (op.mark?.map (⟨c.place, ·⟩)).toList ++ (c.step op).writes rest

theorem writes_append (c : Cursor) (a b : List Op) :
    c.writes (a ++ b) = c.writes a ++ (c.run a).writes b := by
  induction a generalizing c with
  | nil => rfl
  | cons op rest ih =>
    simp only [List.cons_append, writes, ih, List.append_assoc]
    rfl

theorem run_cons (c : Cursor) (op : Op) (rest : List Op) :
    c.run (op :: rest) = (c.step op).run rest := rfl

theorem shift_shift (c : Cursor) (r s r' s' : Int) :
    (c.shift r s).shift r' s' = c.shift (r + r') (s + s') := by
  simp [shift, Int.add_assoc]

theorem shift_zero (c : Cursor) : c.shift 0 0 = c := by
  simp [shift]

end Cursor

/-! ## Moves -/

def OnlyMoves (ops : List Op) : Prop :=
  ∀ op ∈ ops, op.mark? = none

theorem OnlyMoves.cons {op : Op} {ops : List Op} (hop : op.mark? = none) (h : OnlyMoves ops) :
    OnlyMoves (op :: ops) := by
  intro op' h'
  rcases List.mem_cons.1 h' with rfl | h'
  · exact hop
  · exact h op' h'

theorem onlyMoves_nil : OnlyMoves [] := by
  intro op h; cases h

theorem OnlyMoves.writes {ops : List Op} (h : OnlyMoves ops) (c : Cursor) : c.writes ops = [] := by
  induction ops generalizing c with
  | nil => rfl
  | cons op rest ih =>
    have hop := h op (List.mem_cons_self ..)
    simp only [Cursor.writes, hop, Option.map_none, Option.toList_none, List.nil_append]
    exact ih (fun op' h' => h op' (List.mem_cons_of_mem _ h')) _

theorem OnlyMoves.filterMap_mark? {ops : List Op} (h : OnlyMoves ops) :
    ops.filterMap Op.mark? = [] :=
  List.filterMap_eq_nil_iff.2 h

theorem OnlyMoves.writes_append {a : List Op} (h : OnlyMoves a) (c : Cursor) (b : List Op) :
    c.writes (a ++ b) = (c.run a).writes b := by
  rw [Cursor.writes_append, h.writes, List.nil_append]

theorem Mark.writes_op (m : Mark) (c : Cursor) {rest : List Op} (h : OnlyMoves rest) :
    c.writes (m.op :: rest) = [⟨c.place, m⟩] := by
  simp only [Cursor.writes, m.mark?_op, Option.map_some, Option.toList_some, h.writes,
    List.append_nil]

/-- A distance that a cursor went when it was asked to go another: the same one in machine words,
and exactly the same one if it fits one. -/
structure Went (asked went : Int) : Prop where
  dvd : (2 ^ 64 : Int) ∣ went - asked
  exact : asked.natAbs < 2 ^ 63 → went = asked

theorem Went.refl (r : Int) : Went r r :=
  ⟨by omega, fun _ => rfl⟩

theorem Went.forth {r : Int} (h : 0 < r) : Went r (signed r.toNat) := by
  have := signed_sub_dvd r.toNat
  refine ⟨by omega, fun small => ?_⟩
  rw [signed_of_lt (by omega)]; omega

theorem Went.back {r : Int} (h : r < 0) : Went r (-signed (-r).toNat) := by
  have := signed_sub_dvd (-r).toNat
  refine ⟨by omega, fun small => ?_⟩
  rw [signed_of_lt (by omega)]; omega

/-- Asked for what a word keeps of a distance, it went the distance. -/
theorem Went.of_wrapped {r d : Int} (h : Went (wrapped r) d) : Went r d := by
  have := wrapped_sub_dvd r
  have := h.dvd
  refine ⟨by omega, fun small => ?_⟩
  rw [h.exact (by rwa [wrapped_of_natAbs_lt small]), wrapped_of_natAbs_lt small]

theorem run_vertical (c : Cursor) (r : Int) : ∃ d, c.run (vertical r) = c.shift d 0 ∧ Went r d := by
  unfold vertical
  split
  · next h => exact ⟨_, rfl, .forth h⟩
  · split
    · next h => exact ⟨_, rfl, .back h⟩
    · rw [show r = 0 by omega]
      exact ⟨0, c.shift_zero.symm, .refl 0⟩

theorem run_horizontal (c : Cursor) (r : Int) :
    ∃ d, c.run (horizontal r) = c.shift 0 d ∧ Went r d := by
  unfold horizontal
  split
  · next h => exact ⟨_, rfl, .forth h⟩
  · split
    · next h => exact ⟨_, rfl, .back h⟩
    · rw [show r = 0 by omega]
      exact ⟨0, c.shift_zero.symm, .refl 0⟩

theorem run_left (c : Cursor) (n : Nat) :
    c.run (if n = 0 then [] else [.left n]) = c.shift 0 (-signed n) := by
  split
  · next h => rw [h]; exact c.shift_zero.symm
  · rfl

theorem run_right (c : Cursor) (n : Nat) :
    c.run (if n = 0 then [] else [.right n]) = c.shift 0 (signed n) := by
  split
  · next h => rw [h]; exact c.shift_zero.symm
  · rfl

theorem run_viaLeftEdge (c : Cursor) (a b : Nat) :
    c.run (viaLeftEdge a b) = c.shift 0 (signed b - signed a) := by
  rw [viaLeftEdge, Cursor.run_append, run_left, run_right, Cursor.shift_shift, Int.add_zero,
    Int.add_comm, ← Int.sub_eq_add_neg]

/-- Operations that move the cursor and do nothing else. -/
def Travels (ops : List Op) : Prop :=
  ∀ op ∈ ops, ∃ n, op.count? = some n

theorem Travels.append {a b : List Op} (ha : Travels a) (hb : Travels b) : Travels (a ++ b) :=
  List.forall_mem_append.2 ⟨ha, hb⟩

/-- An operation that does not move is not among them. -/
theorem Travels.not_mem {ops : List Op} (h : Travels ops) {op : Op} (stays : op.count? = none) :
    op ∉ ops := by
  intro hop
  obtain ⟨n, hn⟩ := h op hop
  rw [stays] at hn
  cases hn

theorem Travels.onlyMoves {ops : List Op} (h : Travels ops) : OnlyMoves ops := by
  intro op hop
  obtain ⟨n, hn⟩ := h op hop
  cases op with
  | left m | right m | up m | down m => rfl
  | save | restore => rfl
  | highlight c | unhighlight c => cases hn

theorem travels_vertical (r : Int) : Travels (vertical r) := by
  unfold vertical Travels
  split
  · simp [Op.count?]
  · split <;> simp [Op.count?]

theorem travels_horizontal (r : Int) : Travels (horizontal r) := by
  unfold horizontal Travels
  split
  · simp [Op.count?]
  · split <;> simp [Op.count?]

theorem travels_viaLeftEdge (a b : Nat) : Travels (viaLeftEdge a b) := by
  unfold viaLeftEdge Travels
  split <;> split <;> simp [Op.count?]

theorem travels_moves (way : Travel) : Travels (moves way) :=
  (travels_vertical _).append (travels_horizontal _)

theorem travels_approach (style : MoveStyle) (a b : Cell) : Travels (style.approach a b) := by
  cases style with
  | relative => exact travels_moves _
  | lineStart => exact (travels_vertical _).append (travels_viaLeftEdge _ _)

/-- Either style moves the cursor by the rows and the columns from the one cell to the other. -/
theorem run_approach (style : MoveStyle) (a b : Cell) (c : Cursor) :
    ∃ rows cols, c.run (style.approach a b) = c.shift rows cols ∧
      Went (signed b.row - signed a.row) rows ∧ Went (signed b.col - signed a.col) cols := by
  obtain ⟨rows, hrows, wentRows⟩ := run_vertical c (wrapped (signed b.row - signed a.row))
  cases style with
  | relative =>
    obtain ⟨cols, hcols, wentCols⟩ :=
      run_horizontal (c.shift rows 0) (wrapped (signed b.col - signed a.col))
    refine ⟨rows, cols, ?_, wentRows.of_wrapped, wentCols.of_wrapped⟩
    rw [MoveStyle.approach, moves, Cell.travelTo, Cursor.run_append, hrows, hcols,
      Cursor.shift_shift, Int.add_zero, Int.zero_add]
  | lineStart =>
    refine ⟨rows, signed b.col - signed a.col, ?_, wentRows.of_wrapped, .refl _⟩
    rw [MoveStyle.approach, Cell.travelTo, Cursor.run_append, hrows, run_viaLeftEdge,
      Cursor.shift_shift, Int.add_zero, Int.zero_add]

/-- A way to look at places under which a move from one cell of a text to another leads there. -/
def Follows (look : Place → Place) (screen : Screen) (text : Text) : Prop :=
  ∀ (style : MoveStyle) (c : Cursor) (o o' : Nat),
    look c.place = (screen.cellOf text.length o).place →
      look (c.run (style.approach (screen.cellOf text.length o)
        (screen.cellOf text.length o'))).place = (screen.cellOf text.length o').place

theorem Follows.exact {screen : Screen} {text : Text} (fits : screen.Fits text) :
    Follows id screen text := by
  intro style c o o' h
  obtain ⟨hrow, hcol⟩ := fits.small o
  obtain ⟨hrow', hcol'⟩ := fits.small o'
  obtain ⟨rows, cols, hrun, wentRows, wentCols⟩ := run_approach style
    (screen.cellOf text.length o) (screen.cellOf text.length o') c
  simp only [signed_of_lt hrow, signed_of_lt hrow', signed_of_lt hcol, signed_of_lt hcol']
    at wentRows wentCols
  have erows := wentRows.exact (by omega)
  have ecols := wentCols.exact (by omega)
  rw [hrun, (fits.small o').place_eq]
  rw [id_eq, (fits.small o).place_eq] at h
  simp only [id_eq, Cursor.shift, h, erows, ecols, Place.mk.injEq]; omega

theorem Follows.wrapped (screen : Screen) (text : Text) : Follows Place.wrap screen text := by
  intro style c o o' h
  obtain ⟨rows, cols, hrun, wentRows, wentCols⟩ := run_approach style
    (screen.cellOf text.length o) (screen.cellOf text.length o') c
  have hrows := wentRows.dvd
  have hcols := wentCols.dvd
  rw [Cell.wrap_eq_place_iff] at h
  rw [hrun, Cell.wrap_eq_place_iff, Cursor.shift]
  obtain ⟨hrow, hcol⟩ := h
  dsimp only
  omega

end BracketCue.Terminal

namespace BracketCue

open Terminal

/-! ## Edits -/

/-- A character of the text to be written anew, with the highlight on or off. -/
structure Edit where
  offset : Nat
  mark : Mark
  deriving DecidableEq, Repr

/-- The edits that write the characters at some offsets anew. Offsets beyond the text are passed
over. -/
def editsAt (text : Text) (lit : Bool) (offsets : List Nat) : List Edit :=
  offsets.filterMap fun o => text[o]?.map fun c => ⟨o, ⟨c, lit⟩⟩

/-- The edits of a change: what is erased, then what is drawn. -/
def Change.edits (change : Change) (paint : Paint) (text : Text) : List Edit :=
  editsAt text false (painted paint change.erased) ++ editsAt text true (painted paint change.drawn)

def Edit.write (e : Edit) (screen : Screen) (text : Text) : Write :=
  ⟨(screen.cellOf text.length e.offset).place, e.mark⟩

namespace Painter

variable {screen : Screen} {text : Text}

/-- The block of an edit, seen from the cell where the cursor stands. -/
def blockOf (p : Painter) (screen : Screen) (text : Text) (anchor : Cell) (e : Edit) : List Op :=
  p.block anchor (screen.cellOf text.length e.offset) e.mark.op

theorem blocks_eq (p : Painter) (screen : Screen) (text : Text) (anchor : Cell) (lit : Bool)
    (h : Highlight) :
    p.blocks screen text anchor (fun c => Mark.op ⟨c, lit⟩) h =
      (editsAt text lit (h.offsets p.paint)).flatMap (p.blockOf screen text anchor) := by
  simp only [blocks, editsAt]
  induction h.offsets p.paint with
  | nil => rfl
  | cons o rest ih =>
    rw [List.flatMap_cons, ih, List.filterMap_cons]
    cases text[o]? <;> rfl

/-- The operations of a move: the echo, then a block for each edit. -/
theorem ops_eq (p : Painter) (screen : Screen) (text : Text) (change : Change)
    (before after : Nat) :
    p.ops screen text change before after =
      moves ((screen.cellOf text.length before).travelTo (screen.cellOf text.length after)) ++
        (change.edits p.paint text).flatMap
          (p.blockOf screen text (screen.cellOf text.length after)) := by
  have off := p.blocks_eq screen text (screen.cellOf text.length after) false
  have on := p.blocks_eq screen text (screen.cellOf text.length after) true
  simp only [ops, Change.edits, List.flatMap_append, List.append_assoc]
  congr 2
  · cases change.erased with
    | none => rfl
    | some h => exact off h
  · cases change.drawn with
    | none => rfl
    | some h => exact on h

/-- A block brings the cursor back to where it was, whatever it did in between. -/
theorem run_blockOf (p : Painter) (c : Cursor) (anchor : Cell) (e : Edit) :
    c.run (p.blockOf screen text anchor e) = c := by
  obtain ⟨rows, cols, hrun, -, -⟩ := run_approach p.moveStyle anchor
    (screen.cellOf text.length e.offset) (c.step .save)
  rw [blockOf, block, List.cons_append, Cursor.run_cons, Cursor.run_append, hrun]
  obtain ⟨o, ch, lit⟩ := e
  cases lit <;> rfl

theorem run_flatMap_blockOf (p : Painter) (c : Cursor) (anchor : Cell) (edits : List Edit) :
    c.run (edits.flatMap (p.blockOf screen text anchor)) = c := by
  induction edits with
  | nil => rfl
  | cons e rest ih => rw [List.flatMap_cons, Cursor.run_append, run_blockOf, ih]

theorem filterMap_mark?_blockOf (p : Painter) (anchor : Cell) (e : Edit) :
    (p.blockOf screen text anchor e).filterMap Op.mark? = [e.mark] := by
  have way := (travels_approach p.moveStyle anchor (screen.cellOf text.length e.offset)).onlyMoves
  rw [blockOf, block, List.cons_append, filterMap_mark?_cons, List.filterMap_append,
    way.filterMap_mark?, filterMap_mark?_cons, e.mark.mark?_op]
  rfl

/-- The operations of a move write the marks of the change, in order. -/
theorem filterMap_mark?_ops (p : Painter) (screen : Screen) (text : Text) (change : Change)
    (before after : Nat) :
    (p.ops screen text change before after).filterMap Op.mark? =
      (change.edits p.paint text).map (·.mark) := by
  rw [ops_eq, List.filterMap_append, (travels_moves _).onlyMoves.filterMap_mark?, List.nil_append]
  induction change.edits p.paint text with
  | nil => rfl
  | cons e rest ih =>
    rw [List.flatMap_cons, List.filterMap_append, filterMap_mark?_blockOf, ih]
    rfl

variable {look : Place → Place} {c : Cursor} {o : Nat}

theorem writes_blockOf (p : Painter) (follows : Follows look screen text)
    (h : look c.place = (screen.cellOf text.length o).place) (e : Edit) :
    (c.writes (p.blockOf screen text (screen.cellOf text.length o) e)).map (·.seen look) =
      [e.write screen text] := by
  have way : OnlyMoves (.save :: p.moveStyle.approach (screen.cellOf text.length o)
      (screen.cellOf text.length e.offset)) := (travels_approach _ _ _).onlyMoves.cons rfl
  have back : OnlyMoves [.left 1, .restore] := (onlyMoves_nil.cons rfl).cons rfl
  have there := follows p.moveStyle (c.step .save) o e.offset h
  rw [blockOf, block, way.writes_append, e.mark.writes_op _ back, Cursor.run_cons, List.map_cons,
    List.map_nil, Write.seen, there]
  rfl

theorem writes_flatMap_blockOf (p : Painter) (follows : Follows look screen text)
    (h : look c.place = (screen.cellOf text.length o).place) (edits : List Edit) :
    (c.writes (edits.flatMap (p.blockOf screen text (screen.cellOf text.length o)))).map
        (·.seen look) = edits.map (·.write screen text) := by
  induction edits with
  | nil => rfl
  | cons e rest ih =>
    rw [List.flatMap_cons, Cursor.writes_append, run_blockOf, List.map_append,
      p.writes_blockOf follows h, ih, List.map_cons, List.singleton_append]

/-- The operations of a move take the cursor from the cell it comes from to the cell it goes to,
whatever is painted on the way. -/
theorem run_ops (p : Painter) (follows : Follows look screen text)
    (h : look c.place = (screen.cellOf text.length o).place) (change : Change) (after : Nat) :
    look (c.run (p.ops screen text change o after)).place =
      (screen.cellOf text.length after).place := by
  rw [ops_eq, Cursor.run_append, run_flatMap_blockOf]
  exact follows .relative c o after h

/-- The operations of a move write the edits of the change and nothing else. -/
theorem writes_ops (p : Painter) (follows : Follows look screen text)
    (h : look c.place = (screen.cellOf text.length o).place) (change : Change) (after : Nat) :
    (c.writes (p.ops screen text change o after)).map (·.seen look) =
      (change.edits p.paint text).map (·.write screen text) := by
  have there := follows .relative c o after h
  rw [ops_eq, (travels_moves _).onlyMoves.writes_append]
  exact p.writes_flatMap_blockOf follows there _

end Painter
end BracketCue
