import BracketCue.Proofs.Prompt.Parts
import BracketCue.Proofs.Text.Lowercase

/-!
# Prompts made of items

A prompt as its author writes it: visible characters, blocks of hidden characters, and control
sequences in the form that terminals give them, parameters, intermediate characters and one final
character. Of the final characters most are letters, but not all: `\x1b[200~` is a sequence too.

A reader takes the first letter for the end of a sequence. So a sequence that ends in a letter is
skipped as it should be, and one that does not takes along what stands behind it, up to and
including the next letter.

* `reads_spelled`: items are parts, as long as sequences end in letters.
* `widthFrom_control`: what a sequence without a letter takes along.
* `width_spelled`: the columns of a prompt made of items; `width_sequence_overrun` is a prompt that
  should have two and has none.
-/
namespace BracketCue.Prompt

/-- A control sequence, between the characters that begin it and the final one. -/
structure ControlSequence where
  parameters : Text
  intermediates : Text
  final : Char
  parameters_range : parameters.all fun c => 0x30 ≤ c.toNat ∧ c.toNat ≤ 0x3f
  intermediates_range : intermediates.all fun c => 0x20 ≤ c.toNat ∧ c.toNat ≤ 0x2f
  final_range : 0x40 ≤ final.toNat ∧ final.toNat ≤ 0x7e

namespace ControlSequence

/-- What stands between the bracket that begins the sequence and its final character. -/
def inner (s : ControlSequence) : Text :=
  s.parameters ++ s.intermediates

def text (s : ControlSequence) : Text :=
  '\x1b' :: '[' :: (s.inner ++ [s.final])

end ControlSequence

inductive Item
  | visible (c : Char) (h : IsVisible c)
  /-- Characters between the marks that hide them. -/
  | block (hidden : Text) (h : '\x02' ∉ hidden)
  | sequence (s : ControlSequence)

namespace Item

def text : Item → Text
  | .visible c _ => [c]
  | .block hidden _ => '\x01' :: (hidden ++ ['\x02'])
  | .sequence s => s.text

def isVisible : Item → Bool
  | .visible .. => true
  | _ => false

end Item

def spelled (items : List Item) : Text :=
  items.flatMap Item.text

def visibles (items : List Item) : Nat :=
  items.countP Item.isVisible

/-- What stands behind the first letter. -/
def afterLetter (text : Text) : Text :=
  (text.dropWhile fun c => !c.isAlpha).drop 1

/-! ## Sequences that end in a letter -/

/-- No letter stands before the final character. -/
theorem ControlSequence.isAlpha_inner (s : ControlSequence) :
    ∀ c ∈ s.inner, c.isAlpha = false := by
  have low : ∀ {c : Char}, Text.IsAscii c → c.toNat < 0x40 → c.isAlpha = false :=
    Text.forall_ascii (P := fun c => c.toNat < 0x40 → c.isAlpha = false) (by decide)
  intro c hc
  have bound : c.toNat < 0x40 := by
    rcases List.mem_append.1 hc with hc | hc
    · have := of_decide_eq_true (List.all_eq_true.1 s.parameters_range c hc)
      omega
    · have := of_decide_eq_true (List.all_eq_true.1 s.intermediates_range c hc)
      omega
  exact low (by unfold Text.IsAscii; omega) bound

/-- Items stand before the parts of what follows as parts of their own. -/
theorem reads_spelled {items : List Item}
    (letters : ∀ s, .sequence s ∈ items → s.final.isAlpha = true) {rest : Text} {n : Nat}
    {mode : Mode} (later : Reads rest n mode) :
    Reads (spelled items ++ rest) (visibles items + n) mode := by
  induction items with
  | nil =>
    rw [visibles, List.countP_nil, Nat.zero_add]
    exact later
  | cons item items ih =>
    have follows := ih fun s hs => letters s (List.mem_cons_of_mem _ hs)
    simp only [spelled, visibles, List.flatMap_cons, List.countP_cons, List.append_assoc]
      at follows ⊢
    cases item with
    | visible c h =>
      rw [Nat.add_right_comm]
      exact .visible h follows
    | block hidden h => simpa [Item.text, Item.isVisible] using Reads.block h follows
    | sequence s =>
      have ends := letters s List.mem_cons_self
      simpa [Item.text, Item.isVisible, ControlSequence.text] using
        Reads.sequence s.isAlpha_inner ends follows

/-! ## Sequences that do not -/

/-- A sequence that has had no letter yet goes on to the next one. -/
theorem widthFrom_control (rest : Text) : widthFrom .control rest = width (afterLetter rest) := by
  induction rest with
  | nil => rfl
  | cons c rest ih =>
    unfold afterLetter
    cases hc : c.isAlpha with
    | true =>
      rw [List.dropWhile_cons_of_neg (by simp [hc])]
      simp [widthFrom, step, hc, width]
    | false =>
      rw [List.dropWhile_cons_of_pos (by simp [hc])]
      simpa [widthFrom, step, hc, afterLetter] using ih

theorem width_sequence_append {s : ControlSequence} (h : s.final.isAlpha = false) (rest : Text) :
    width (s.text ++ rest) = width (afterLetter rest) := by
  have inside : ∀ c ∈ s.inner ++ [s.final], c.isAlpha = false := by
    intro c hc
    rcases List.mem_append.1 hc with hc | hc
    · exact s.isAlpha_inner c hc
    · rw [List.mem_singleton.1 hc]; exact h
  obtain ⟨columns, mode⟩ := (Reads.openSequence inside).sound
  have split : width (s.text ++ rest) = width s.text + widthFrom (modeFrom .shown s.text) rest :=
    widthFrom_append ..
  rw [split, ControlSequence.text, columns, mode, widthFrom_control, Nat.zero_add]

/-- A sequence takes no columns and takes nothing along exactly if it ends in a letter. -/
theorem width_sequence_append_iff (s : ControlSequence) :
    (∀ rest, width (s.text ++ rest) = width rest) ↔ s.final.isAlpha = true := by
  constructor
  · intro skipped
    cases h : s.final.isAlpha with
    | true => rfl
    | false =>
      -- a letter behind it is taken along
      have taken := width_sequence_append h ['a']
      rw [skipped] at taken
      exact absurd taken (by decide)
  · intro h rest
    have ends : ∀ s', .sequence s' ∈ [Item.sequence s] → s'.final.isAlpha = true := by
      intro s' hs'
      cases List.mem_singleton.1 hs'
      exact h
    have := (reads_spelled ends (reads_self rest)).sound.1
    simpa [spelled, visibles, Item.text, Item.isVisible] using this

/-- The columns of a prompt made of items are its visible characters if its sequences end in
letters. The first sequence that does not takes along what stands behind it, up to and including the
next letter, whether that letter is visible, hidden or of another sequence. So a sequence is skipped
wherever it stands exactly if it ends in a letter. -/
theorem width_spelled (items : List Item) :
    ((∀ s, .sequence s ∈ items → s.final.isAlpha = true) →
      width (spelled items) = visibles items) ∧
    (∀ before s after, items = before ++ .sequence s :: after →
      (∀ s', .sequence s' ∈ before → s'.final.isAlpha = true) → s.final.isAlpha = false →
        width (spelled items) = visibles before + width (afterLetter (spelled after))) ∧
    ∀ s : ControlSequence,
      (∀ rest, width (s.text ++ rest) = width rest) ↔ s.final.isAlpha = true := by
  refine ⟨fun letters => ?_, fun before s after split letters ends => ?_,
    width_sequence_append_iff⟩
  · have := (reads_spelled letters .nil).sound.1
    rwa [List.append_nil] at this
  · have apart : spelled items = spelled before ++ (s.text ++ spelled after) := by
      rw [split]
      simp [spelled, Item.text]
    rw [apart, (reads_spelled letters (reads_self _)).sound.1, width_sequence_append ends]

/-- A prompt whose sequences are hidden or end in a letter, and one with a sequence that takes along
the character behind it. -/
theorem width_spelled_pasted :
    let bold : ControlSequence := ⟨"1;31".toList, [], 'm', rfl, rfl, by decide⟩
    let paste : ControlSequence := ⟨"200".toList, [], '~', rfl, rfl, by decide⟩
    let user : List Item := [.block "\x1b[32~".toList (by decide), .visible 'u' (by decide),
      .sequence bold, .visible '$' (by decide)]
    let letters : List Item := [.visible 'a' (by decide), .visible 'b' (by decide)]
    spelled user = "\x01\x1b[32~\x02u\x1b[1;31m$".toList ∧ width (spelled user) = 2 ∧
      spelled (user ++ .sequence paste :: letters) =
        "\x01\x1b[32~\x02u\x1b[1;31m$\x1b[200~ab".toList ∧
      width (spelled (user ++ .sequence paste :: letters)) = 2 + 1 := by
  intro bold paste user letters
  have ends : ∀ s, .sequence s ∈ user → s.final.isAlpha = true := by
    intro s hs
    simp only [user, List.mem_cons, List.not_mem_nil, reduceCtorEq, Item.sequence.injEq, false_or,
      or_false] at hs
    rw [hs]
    decide
  obtain ⟨fits, -⟩ := width_spelled user
  obtain ⟨-, overruns, -⟩ := width_spelled (user ++ .sequence paste :: letters)
  exact ⟨by decide, fits ends, by decide, overruns user paste letters rfl ends (by decide)⟩

/-- Of two visible characters behind a sequence that does not end in a letter none is counted. -/
theorem width_sequence_overrun :
    let paste : ControlSequence := ⟨"200".toList, [], '~', rfl, rfl, by decide⟩
    let items : List Item := [.sequence paste, .visible '$' (by decide), .visible ' ' (by decide)]
    spelled items = "\x1b[200~$ ".toList ∧ visibles items = 2 ∧ width (spelled items) = 0 := by
  intro paste items
  exact ⟨by decide, by decide, by decide⟩

end BracketCue.Prompt
