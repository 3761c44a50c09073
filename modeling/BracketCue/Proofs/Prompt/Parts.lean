import BracketCue.Prompt
import Mathlib.Data.List.Induction

/-!
# The parts of a prompt

From left to right a prompt falls into parts: visible characters, blocks of hidden characters,
control sequences, end marks without a block and escape characters without a sequence. Its last part
may be unfinished, a block without its end mark, a sequence without its letter, or an escape
character of which it is open what it begins.

`Reads` says so without a reader. It is kept by each character that is added, and so the reader,
who sees one character at a time and remembers a mode, finds the parts of every prompt.

* `Reads.concat`: one character more.
* `reads_iff`: the columns are the visible characters, and the mode is the unfinished part.
* `width_append`: columns add up where no part is unfinished; what is added inside a block of hidden
  characters takes none up to its end mark.
-/
namespace BracketCue.Prompt

/-- The character is neither a mark nor the escape character. -/
def IsVisible (c : Char) : Prop :=
  c ≠ '\x01' ∧ c ≠ '\x02' ∧ c ≠ '\x1b'

instance (c : Char) : Decidable (IsVisible c) :=
  inferInstanceAs (Decidable (_ ∧ _ ∧ _))

/-- The prompt falls into parts of which `n` are visible characters. The mode tells the part that is
unfinished, and is `shown` if there is none. -/
inductive Reads : Text → Nat → Mode → Prop
  | nil : Reads [] 0 .shown
  | visible {c rest n mode} (h : IsVisible c) (later : Reads rest n mode) :
      Reads (c :: rest) (n + 1) mode
  | endMark {rest n mode} (later : Reads rest n mode) : Reads ('\x02' :: rest) n mode
  | block {w rest n mode} (inside : '\x02' ∉ w) (later : Reads rest n mode) :
      Reads ('\x01' :: (w ++ '\x02' :: rest)) n mode
  | openBlock {w} (inside : '\x02' ∉ w) : Reads ('\x01' :: w) 0 .hidden
  | sequence {w letter rest n mode} (inside : ∀ c ∈ w, c.isAlpha = false)
      (ends : letter.isAlpha = true) (later : Reads rest n mode) :
      Reads ('\x1b' :: '[' :: (w ++ letter :: rest)) n mode
  | openSequence {w} (inside : ∀ c ∈ w, c.isAlpha = false) : Reads ('\x1b' :: '[' :: w) 0 .control
  | escape {c rest n mode} (h : c ≠ '[') (later : Reads (c :: rest) n mode) :
      Reads ('\x1b' :: c :: rest) n mode
  | openEscape : Reads ['\x1b'] 0 .escape

/-- The part of the prompt that the mode tells is unfinished. -/
def EndsIn (mode : Mode) (prompt : Text) : Prop :=
  ∃ n, Reads prompt n mode

/-! ## The reader -/

/-- The mode after characters that are read from a mode on. -/
def modeFrom (mode : Mode) : Text → Mode
  | [] => mode
  | c :: rest => modeFrom (step mode c).1 rest

theorem widthFrom_append (mode : Mode) (a b : Text) :
    widthFrom mode (a ++ b) = widthFrom mode a + widthFrom (modeFrom mode a) b := by
  induction a generalizing mode with
  | nil => simp [widthFrom, modeFrom]
  | cons c rest ih =>
    simp only [List.cons_append, widthFrom, modeFrom, ih]
    omega

theorem modeFrom_append (mode : Mode) (a b : Text) :
    modeFrom mode (a ++ b) = modeFrom (modeFrom mode a) b := by
  induction a generalizing mode with
  | nil => rfl
  | cons c rest ih => simp only [List.cons_append, modeFrom, ih]

theorem step_of_isVisible {c : Char} (h : IsVisible c) : step .shown c = (.shown, 1) := by
  obtain ⟨h1, h2, h3⟩ := h
  simp [step, plainStep, h1, h2, h3]

/-- Inside a block of hidden characters nothing is shown. -/
theorem read_hidden {w : Text} (h : '\x02' ∉ w) :
    widthFrom .hidden w = 0 ∧ modeFrom .hidden w = .hidden := by
  induction w with
  | nil => exact ⟨rfl, rfl⟩
  | cons c rest ih =>
    have hc : c ≠ '\x02' := (List.ne_of_not_mem_cons h).symm
    have stays : step .hidden c = (.hidden, 0) := by simp [step, hc]
    simp only [widthFrom, modeFrom, stays, Nat.zero_add]
    exact ih (List.not_mem_of_not_mem_cons h)

/-- Inside a control sequence nothing is shown. -/
theorem read_control {w : Text} (h : ∀ c ∈ w, c.isAlpha = false) :
    widthFrom .control w = 0 ∧ modeFrom .control w = .control := by
  induction w with
  | nil => exact ⟨rfl, rfl⟩
  | cons c rest ih =>
    obtain ⟨hc, hrest⟩ := List.forall_mem_cons.1 h
    have stays : step .control c = (.control, 0) := by simp [step, hc]
    simp only [widthFrom, modeFrom, stays, Nat.zero_add]
    exact ih hrest

/-- An end mark ends the block, whatever the hidden characters are. -/
theorem widthFrom_hidden {w : Text} (h : '\x02' ∉ w) (rest : Text) :
    widthFrom .hidden (w ++ '\x02' :: rest) = width rest := by
  rw [widthFrom_append, (read_hidden h).1, (read_hidden h).2, Nat.zero_add]
  exact Nat.zero_add _

/-! ## The parts are what the reader finds -/

theorem reads_singleton (c : Char) : Reads [c] (plainStep c).2 (plainStep c).1 := by
  unfold plainStep
  split
  · next h => subst h; exact .openBlock List.not_mem_nil
  · split
    · next h => subst h; exact .endMark .nil
    · split
      · next h => subst h; exact .openEscape
      · next h1 h2 h3 => exact .visible ⟨h1, h2, h3⟩ .nil

/-- A character that is added ends or extends the unfinished part, or is a part of its own. -/
theorem Reads.concat {text : Text} {n : Nat} {mode : Mode} (h : Reads text n mode) (c : Char) :
    Reads (text ++ [c]) (n + (step mode c).2) (step mode c).1 := by
  induction h with
  | nil => rw [Nat.zero_add]; exact reads_singleton c
  | visible hc later ih => rw [Nat.add_right_comm]; exact .visible hc ih
  | endMark later ih => exact .endMark ih
  | block inside later ih => simpa using Reads.block inside ih
  | sequence inside ends later ih => simpa using Reads.sequence inside ends ih
  | escape hc later ih => exact .escape hc ih
  | @openBlock w inside =>
    by_cases hc : c = '\x02'
    · subst hc
      exact .block inside .nil
    · have longer : '\x02' ∉ w ++ [c] := by simp [inside, Ne.symm hc]
      simpa [step, hc] using Reads.openBlock longer
  | @openSequence w inside =>
    by_cases hc : c.isAlpha = true
    · simpa [step, hc] using Reads.sequence inside hc .nil
    · have longer : ∀ d ∈ w ++ [c], d.isAlpha = false := by
        intro d hd
        rcases List.mem_append.1 hd with hd | hd
        · exact inside d hd
        · rw [List.mem_singleton.1 hd]; simpa using hc
      simpa [step, hc] using Reads.openSequence longer
  | openEscape =>
    by_cases hc : c = '['
    · subst hc
      exact .openSequence (List.forall_mem_nil _)
    · simpa [step, hc] using Reads.escape hc (reads_singleton c)

theorem reads_self (text : Text) : Reads text (width text) (modeFrom .shown text) := by
  induction text using List.reverseRecOn with
  | nil => exact .nil
  | append_singleton text c ih =>
    have := ih.concat c
    rwa [width, widthFrom_append, modeFrom_append]

theorem Reads.sound {text : Text} {n : Nat} {mode : Mode} (h : Reads text n mode) :
    width text = n ∧ modeFrom .shown text = mode := by
  unfold width
  induction h with
  | nil => exact ⟨rfl, rfl⟩
  | visible hc later ih =>
    simp only [widthFrom, modeFrom, step_of_isVisible hc, ih]
    exact ⟨Nat.add_comm _ _, trivial⟩
  | endMark later ih => simpa [widthFrom, modeFrom, step, plainStep] using ih
  | block inside later ih =>
    simpa [widthFrom, modeFrom, step, plainStep, widthFrom_append, modeFrom_append,
      read_hidden inside] using ih
  | openBlock inside =>
    simpa [widthFrom, modeFrom, step, plainStep] using read_hidden inside
  | sequence inside ends later ih =>
    simpa [widthFrom, modeFrom, step, plainStep, widthFrom_append, modeFrom_append,
      read_control inside, ends] using ih
  | openSequence inside =>
    simpa [widthFrom, modeFrom, step, plainStep] using read_control inside
  | escape hc later ih => simpa [widthFrom, modeFrom, step, plainStep, hc] using ih
  | openEscape => exact ⟨rfl, rfl⟩

/-- The columns of a prompt are its visible characters, and the mode in which a reader is left tells
the unfinished part. -/
theorem reads_iff {text : Text} {n : Nat} {mode : Mode} :
    Reads text n mode ↔ width text = n ∧ modeFrom .shown text = mode := by
  constructor
  · exact Reads.sound
  · intro h
    obtain ⟨rfl, rfl⟩ := h
    exact reads_self text

theorem endsIn_iff {mode : Mode} {text : Text} : EndsIn mode text ↔ modeFrom .shown text = mode := by
  simp [EndsIn, reads_iff]

instance (mode : Mode) (text : Text) : Decidable (EndsIn mode text) :=
  decidable_of_iff _ endsIn_iff.symm

/-! ## Prompts one after the other -/

/-- The columns of two prompts add up if the first one has no unfinished part. If it ends inside a
block of hidden characters, those of the second one take no columns up to its first end mark. -/
theorem width_append (a b : Text) :
    (¬EndsIn .hidden a → ¬EndsIn .control a → ¬EndsIn .escape a →
      width (a ++ b) = width a + width b) ∧
    (EndsIn .hidden a → ('\x02' ∉ b → width (a ++ b) = width a) ∧
      ∀ w rest, b = w ++ '\x02' :: rest → '\x02' ∉ w →
        width (a ++ b) = width a + width rest) := by
  have split : width (a ++ b) = width a + widthFrom (modeFrom .shown a) b := widthFrom_append ..
  simp only [endsIn_iff]
  constructor
  · intro hidden control escape
    have finished : modeFrom .shown a = .shown := by
      cases h : modeFrom .shown a with
      | shown => rfl
      | hidden => exact absurd h hidden
      | control => exact absurd h control
      | escape => exact absurd h escape
    rw [split, finished]
    rfl
  · intro hidden
    rw [split, hidden]
    refine ⟨fun unmarked => ?_, fun w rest hb unmarked => ?_⟩
    · rw [(read_hidden unmarked).1, Nat.add_zero]
    · rw [hb, widthFrom_hidden unmarked]

/-- A prompt whose parts are finished, and one that ends inside a block, before another whose
sequence or block is not finished. -/
theorem width_append_unfinished :
    let user := "\x01\x1b[32m\x02user\x1b[m".toList
    let begun := "$\x1b\x01".toList
    (¬EndsIn .hidden user ∧ ¬EndsIn .control user ∧ ¬EndsIn .escape user ∧
      width (user ++ "$ \x1b[1".toList) = 4 + 2) ∧
    EndsIn .hidden begun ∧ width (begun ++ "\x1b[a".toList) = 1 ∧
      width (begun ++ "\x1b[\x02>\x01".toList) = 1 + 1 := by
  intro user begun
  have hidden : EndsIn .hidden begun := by decide
  obtain ⟨add, -⟩ := width_append user "$ \x1b[1".toList
  obtain ⟨-, unmarked⟩ := width_append begun "\x1b[a".toList
  obtain ⟨-, marked⟩ := width_append begun "\x1b[\x02>\x01".toList
  refine ⟨⟨by decide, by decide, by decide, ?_⟩, hidden, ?_, ?_⟩
  · exact add (by decide) (by decide) (by decide)
  · exact (unmarked hidden).1 (by decide)
  · exact (marked hidden).2 "\x1b[".toList ">\x01".toList (by decide) (by decide)

end BracketCue.Prompt
