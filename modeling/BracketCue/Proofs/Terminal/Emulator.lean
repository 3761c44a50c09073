import BracketCue.Proofs.Terminal.Writes
import BracketCue.Terminal.Escapes

/-!
# An emulator

A terminal that reads characters one by one. Outside of sequences it writes them with the rendition
that is set, apart from control characters. `ESC 7` and `ESC 8` keep and restore the pen, its
place and its rendition together, and there is one pen to keep. A sequence that `ESC [` begins runs
through numbers and semicolons up to the character that says what it is for: `A` to `D` move the
pen, `m` selects renditions, and the others have no effect.

* `feed_sequence`: a sequence is read as its numbers and its last character.
* `numbers_decimal`: a numeral of any size is read as its number.
* `feed_op`: what is sent for an operation is read as the operation.
-/
namespace BracketCue.Terminal

/-! ## Renditions -/

inductive Intensity
  | normal
  | bold
  | faint
  deriving DecidableEq, Repr

/-- How characters are shown. A color that is not set is the default one. -/
structure Rendition where
  intensity : Intensity
  foreground : Option Nat
  background : Option Nat
  /-- The codes of further attributes that are on, such as 4 for underlined. -/
  others : List Nat
  deriving DecidableEq, Repr

namespace Rendition

/-- The rendition in which everything is at its default. -/
def plain : Rendition :=
  ⟨.normal, none, none, []⟩

/-- The rendition after one parameter. A parameter that stands for nothing known has no effect. -/
def select (r : Rendition) (code : Nat) : Rendition :=
  if code = 0 then plain
  else if code = 1 then { r with intensity := .bold }
  else if code = 2 then { r with intensity := .faint }
  else if code ≤ 9 then { r with others := r.others.insert code }
  else if code = 22 then { r with intensity := .normal }
  else if 30 ≤ code ∧ code ≤ 37 then { r with foreground := some code }
  else if code = 39 then { r with foreground := none }
  else if 40 ≤ code ∧ code ≤ 47 then { r with background := some code }
  else if code = 49 then { r with background := none }
  else r

theorem select_background (r : Rendition) {code : Nat} (h : 40 ≤ code ∧ code ≤ 47) :
    r.select code = { r with background := some code } := by
  unfold select
  rw [if_neg (by omega), if_neg (by omega), if_neg (by omega), if_neg (by omega), if_neg (by omega),
    if_neg (by omega), if_neg (by omega), if_pos h]

end Rendition

/-- The rendition that the sequences of a style leave. Bold is not part of it: the colors are set by
a sequence that begins with a parameter left out, and that sets everything back to its default. -/
def Style.rendition (s : Style) : Rendition :=
  ⟨.normal, none, some s.background, []⟩

/-! ## The machine -/

/-- Where the next character is written, and how. -/
structure Pen where
  place : Place
  rendition : Rendition
  deriving DecidableEq, Repr

/-- A character on the screen. -/
structure Glyph where
  place : Place
  char : Char
  rendition : Rendition
  deriving DecidableEq, Repr

/-- What the next character is read as a part of. -/
inductive Mode
  | text
  /-- After an escape character. -/
  | escape
  /-- In a sequence, after its parameters so far. -/
  | sequence (parameters : Text)
  deriving DecidableEq, Repr

/-- The emulator; `glyphs` are the characters written so far, in order. -/
structure Emulator where
  pen : Pen
  kept : Pen
  mode : Mode
  glyphs : List Glyph
  deriving DecidableEq, Repr

def isControl (c : Char) : Bool :=
  c.toNat < 32 || (127 ≤ c.toNat && c.toNat < 160)

/-- Whether a character belongs to the parameters of a sequence. -/
def isParameter (c : Char) : Bool :=
  c.isDigit || c == ';'

/-- The parameters as numbers; one that is left out is zero. -/
def numbers (parameters : Text) : List Nat :=
  (parameters.splitOnP (· == ';')).map fun numeral => Nat.ofDigitChars 10 numeral 0

/-- An operation that can be sent to a terminal: a move goes somewhere, and what is written is no
control character. -/
structure Op.Sendable (op : Op) : Prop where
  count_pos : ∀ n, op.count? = some n → 1 ≤ n
  plain : ∀ m, op.mark? = some m → isControl m.char = false

instance (op : Op) : Decidable op.Sendable :=
  decidable_of_iff ((∀ n ∈ op.count?, 1 ≤ n) ∧ ∀ m ∈ op.mark?, isControl m.char = false)
    ⟨fun ⟨count, mark⟩ => ⟨count, mark⟩, fun ⟨count, mark⟩ => ⟨count, mark⟩⟩

namespace Pen

/-- The pen after moving by rows and columns. -/
def move (p : Pen) (rows cols : Int) : Pen :=
  { p with place := ⟨p.place.row + rows, p.place.col + cols⟩ }

/-- The pen after a sequence. A number of rows or columns that is zero or missing stands for one. -/
def obey (p : Pen) (numbers : List Nat) (final : Char) : Pen :=
  let count : Nat := max 1 (numbers.headD 0)
  match final with
  | 'A' => p.move (-count) 0
  | 'B' => p.move count 0
  | 'C' => p.move 0 count
  | 'D' => p.move 0 (-count)
  | 'm' => { p with rendition := numbers.foldl Rendition.select p.rendition }
  | _ => p

end Pen

namespace Emulator

def dress (t : Emulator) (r : Rendition) : Emulator :=
  { t with pen := ⟨t.pen.place, r⟩ }

def write (t : Emulator) (c : Char) : Emulator :=
  { t with
    pen := t.pen.move 0 1
    glyphs := t.glyphs ++ [⟨t.pen.place, c, t.pen.rendition⟩] }

def step (t : Emulator) (c : Char) : Emulator :=
  match t.mode with
  | .text => if c = esc then { t with mode := .escape } else if isControl c then t else t.write c
  | .escape =>
    if c = '7' then { t with mode := .text, kept := t.pen }
    else if c = '8' then { t with mode := .text, pen := t.kept }
    else if c = '[' then { t with mode := .sequence [] }
    else { t with mode := .text }
  | .sequence parameters =>
    if isParameter c then { t with mode := .sequence (parameters ++ [c]) }
    else { t with mode := .text, pen := t.pen.obey (numbers parameters) c }

def feed (t : Emulator) (text : Text) : Emulator :=
  text.foldl step t

theorem feed_append (t : Emulator) (a b : Text) : t.feed (a ++ b) = (t.feed a).feed b :=
  List.foldl_append

/-! ## Reading sequences -/

theorem feed_parameters (t : Emulator) {parameters : Text} (h : ∀ c ∈ parameters, isParameter c)
    (before : Text) :
    { t with mode := .sequence before }.feed parameters =
      { t with mode := .sequence (before ++ parameters) } := by
  induction parameters generalizing before with
  | nil => rw [List.append_nil]; rfl
  | cons c rest ih =>
    have hc : { t with mode := .sequence before }.step c =
        { t with mode := .sequence (before ++ [c]) } := if_pos (h c (List.mem_cons_self ..))
    have := ih (fun c' h' => h c' (List.mem_cons_of_mem _ h')) (before ++ [c])
    rw [List.append_assoc, List.singleton_append] at this
    rw [feed, List.foldl_cons, hc]
    exact this

/-- A sequence is obeyed as a whole. -/
theorem feed_sequence {t : Emulator} (ready : t.mode = .text) {parameters : Text}
    (h : ∀ c ∈ parameters, isParameter c) {final : Char} (hf : isParameter final = false) :
    t.feed ([esc, '['] ++ parameters ++ [final]) =
      { t with pen := t.pen.obey (numbers parameters) final } := by
  have began : t.feed [esc, '['] = { t with mode := .sequence [] } := by
    obtain ⟨pen, kept, mode, glyphs⟩ := t
    cases ready
    rfl
  rw [feed_append, feed_append, began, feed_parameters t h, List.nil_append]
  obtain ⟨pen, kept, mode, glyphs⟩ := t
  cases ready
  exact if_neg (by simp [hf])

theorem isParameter_of_mem_decimal {n : Nat} {c : Char} (h : c ∈ Text.decimal n) :
    isParameter c = true := by
  rw [isParameter, Nat.isDigit_of_mem_toDigits (by decide) (by decide) h, Bool.true_or]

theorem ne_semicolon_of_mem_decimal {n : Nat} {c : Char} (h : c ∈ Text.decimal n) :
    (c == ';') = false := by
  have digit := Nat.isDigit_of_mem_toDigits (by decide) (by decide) h
  rw [beq_eq_false_iff_ne]
  rintro rfl
  exact absurd digit (by decide)

/-- A numeral of any size is read as its number. -/
theorem numbers_decimal (n : Nat) : numbers (Text.decimal n) = [n] := by
  rw [numbers, List.splitOnP_eq_singleton fun c h => ne_semicolon_of_mem_decimal h,
    List.map_singleton, Text.decimal, Nat.ofDigitChars_ten_toDigits]

theorem numbers_cons_semicolon (rest : Text) : numbers (';' :: rest) = 0 :: numbers rest := by
  rw [numbers, List.splitOnP_cons_eq_if_modifyHead]
  rfl

theorem numbers_decimal_semicolon (n : Nat) (rest : Text) :
    numbers (Text.decimal n ++ ';' :: rest) = n :: numbers rest := by
  rw [numbers, List.splitOnP_append_cons_of_forall_mem (fun c h => ne_semicolon_of_mem_decimal h)
    ';' rfl, List.map_cons, Text.decimal, Nat.ofDigitChars_ten_toDigits]
  rfl

/-! ## Reading operations -/

/-- What an operation does to the emulator. -/
def perform (style : Style) (t : Emulator) : Op → Emulator
  | .left n => { t with pen := t.pen.move 0 (-n) }
  | .right n => { t with pen := t.pen.move 0 n }
  | .up n => { t with pen := t.pen.move (-n) 0 }
  | .down n => { t with pen := t.pen.move n 0 }
  | .save => { t with kept := t.pen }
  | .restore => { t with pen := t.kept }
  | .highlight c => (t.dress style.rendition).write c
  | .unhighlight c => (t.dress .plain).write c

theorem feed_plain {t : Emulator} (ready : t.mode = .text) {c : Char} (h : isControl c = false) :
    t.feed [c] = t.write c := by
  have hesc : c ≠ esc := by
    rintro rfl
    exact absurd h (by decide)
  rw [feed, List.foldl_cons, List.foldl_nil, step, ready]
  dsimp only
  rw [if_neg hesc, if_neg (by simp [h])]

theorem feed_moveSequence {t : Emulator} (ready : t.mode = .text) (n : Nat) {final : Char}
    (hf : isParameter final = false) :
    t.feed (moveSequence n final) = { t with pen := t.pen.obey [n] final } := by
  rw [moveSequence, feed_sequence ready (fun c h => isParameter_of_mem_decimal h) hf,
    numbers_decimal]

theorem feed_plainSequence {t : Emulator} (ready : t.mode = .text) :
    t.feed Style.plainSequence = t.dress .plain := by
  obtain ⟨⟨place, rendition⟩, kept, mode, glyphs⟩ := t
  cases ready
  rfl

theorem numbers_colors (background : Nat) :
    numbers ([';', '3', '9', ';'] ++ Text.decimal background) = [0, 39, background] := by
  have foreground : Text.decimal 39 = ['3', '9'] := by decide
  have codes := numbers_decimal_semicolon 39 (Text.decimal background)
  rw [foreground, numbers_decimal] at codes
  exact (numbers_cons_semicolon _).trans (congrArg (0 :: ·) codes)

theorem feed_bold {t : Emulator} (ready : t.mode = .text) (bold : Bool) :
    ∃ r, t.feed (if bold then [esc, '[', '1', 'm'] else []) = t.dress r := by
  obtain ⟨⟨place, rendition⟩, kept, mode, glyphs⟩ := t
  cases ready
  cases bold
  · exact ⟨rendition, rfl⟩
  · exact ⟨{ rendition with intensity := .bold }, rfl⟩

/-- Whatever the weight made of the rendition, the colors begin by setting it back. -/
theorem feed_highlightSequence_select {t : Emulator} (ready : t.mode = .text) (style : Style) :
    t.feed style.highlightSequence = t.dress (Rendition.plain.select style.background) := by
  obtain ⟨r, bold⟩ := feed_bold ready style.bold
  have parameters : ∀ c ∈ [';', '3', '9', ';'] ++ Text.decimal style.background, isParameter c := by
    intro c h
    rcases List.mem_append.1 h with h | h
    · simp only [List.mem_cons, List.not_mem_nil, or_false] at h
      rcases h with rfl | rfl | rfl | rfl <;> rfl
    · exact isParameter_of_mem_decimal h
  have final : isParameter 'm' = false := rfl
  have colors := feed_sequence (t := t.dress r) ready parameters final
  have selected : [0, 39, style.background].foldl Rendition.select r =
      Rendition.plain.select style.background := rfl
  rw [numbers_colors] at colors
  calc t.feed style.highlightSequence
      = (t.feed (if style.bold then [esc, '[', '1', 'm'] else [])).feed
          ([esc, '['] ++ ([';', '3', '9', ';'] ++ Text.decimal style.background) ++ ['m']) := by
        rw [Style.highlightSequence, List.append_assoc, List.append_assoc, feed_append]
        rfl
    _ = { t.dress r with pen := (t.dress r).pen.obey [0, 39, style.background] 'm' } := by
        rw [bold, colors]
    _ = t.dress (Rendition.plain.select style.background) := by
        rw [← selected]
        rfl

theorem feed_highlightSequence {t : Emulator} (ready : t.mode = .text) {style : Style}
    (color : 40 ≤ style.background ∧ style.background ≤ 47) :
    t.feed style.highlightSequence = t.dress style.rendition := by
  rw [feed_highlightSequence_select ready, Rendition.select_background _ color]
  rfl

/-- What is sent for an operation is read as the operation. -/
theorem feed_op {t : Emulator} (ready : t.mode = .text) {style : Style}
    (color : 40 ≤ style.background ∧ style.background ≤ 47) {op : Op} (sendable : op.Sendable) :
    t.feed (op.escapes style) = t.perform style op := by
  have go : ∀ n, op.count? = some n → max 1 ([n].headD 0) = n := fun n hn =>
    Nat.max_eq_right (sendable.count_pos n hn)
  cases op with
  | left n | right n | up n | down n =>
    refine (feed_moveSequence ready n rfl).trans ?_
    rw [Pen.obey, go n rfl]
    rfl
  | save | restore =>
    obtain ⟨pen, kept, mode, glyphs⟩ := t
    cases ready
    rfl
  | highlight c =>
    rw [Op.escapes, feed_append, feed_highlightSequence ready color]
    exact feed_plain (t := t.dress style.rendition) ready (sendable.plain _ rfl)
  | unhighlight c =>
    rw [Op.escapes, feed_append, feed_plainSequence ready]
    exact feed_plain (t := t.dress .plain) ready (sendable.plain _ rfl)

end Emulator
end BracketCue.Terminal
