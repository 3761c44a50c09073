import BracketCue.Text.Basic
import Mathlib.Data.List.DropRight

/-!
# The words of a text

The words of a text are its maximal runs of characters that do not separate. They do not change if
separators are put where there are separators already, or at the ends.

* `words_append_cons`: a separator ends a word, so the words before and after it are found apart.
* `words_trim`: the words of a line are those of the line without the white space around it.
* `words_eq_iff`: splitting at every separator and leaving out what is empty finds the maximal runs.
-/
namespace BracketCue.Text

variable {separates : Char → Bool} {c : Char}

/-! ## Pieces -/

/-- A part whose characters all satisfy a property, and of what follows not the first, is found
again. -/
theorem span_append {p : Char → Bool} {a b : Text} (ha : ∀ c ∈ a, p c = true)
    (hb : ∀ c ∈ b.head?, p c = false) :
    (a ++ b).takeWhile p = a ∧ (a ++ b).dropWhile p = b := by
  rw [List.takeWhile_append_of_pos ha, List.dropWhile_append_of_pos ha]
  cases b with
  | nil => simp
  | cons c rest =>
    have stops : ¬p c = true := by simp [hb c rfl]
    rw [List.takeWhile_cons_of_neg stops, List.dropWhile_cons_of_neg stops, List.append_nil]
    exact ⟨rfl, rfl⟩

/-- No piece of a text that is split contains a separator. -/
theorem separates_eq_false_of_mem_splitOnP {text piece : Text}
    (h : piece ∈ text.splitOnP separates) : ∀ c ∈ piece, separates c = false := by
  induction text generalizing piece with
  | nil =>
    rw [List.splitOnP_nil, List.mem_singleton] at h
    simp [h]
  | cons head rest ih =>
    rw [List.splitOnP_cons_eq_if_modifyHead] at h
    split at h
    · rcases List.mem_cons.1 h with rfl | h
      · simp
      · exact ih h
    · next inside =>
      obtain ⟨first, later, split⟩ :=
        List.exists_cons_of_ne_nil (List.splitOnP_ne_nil separates rest)
      rw [split] at ih h
      rcases List.mem_cons.1 h with rfl | h
      · exact List.forall_mem_cons.2 ⟨Bool.eq_false_iff.2 inside, ih List.mem_cons_self⟩
      · exact ih (List.mem_cons_of_mem _ h)

/-! ## Words -/

theorem words_append_cons (h : separates c = true) (a b : Text) :
    words separates (a ++ c :: b) = words separates a ++ words separates b := by
  rw [words, List.splitOnP_append_cons a b h, List.filter_append]
  rfl

theorem words_cons_of_separates (h : separates c = true) (text : Text) :
    words separates (c :: text) = words separates text := by
  have := words_append_cons h [] text
  rwa [words_nil, List.nil_append, List.nil_append] at this

theorem words_concat_of_separates (h : separates c = true) (text : Text) :
    words separates (text ++ [c]) = words separates text := by
  rw [words_append_cons h, words_nil, List.append_nil]

/-- A character that does not separate belongs to the first word. -/
theorem words_cons (h : ¬separates c = true) (text : Text) :
    ∃ word rest, words separates (c :: text) = (c :: word) :: rest := by
  obtain ⟨first, later, split⟩ := List.exists_cons_of_ne_nil (List.splitOnP_ne_nil separates text)
  refine ⟨first, later.filter (· ≠ []), ?_⟩
  rw [words, List.splitOnP_cons_eq_if_modifyHead, if_neg h, split]
  simp

theorem words_dropWhile (separates : Char → Bool) (text : Text) :
    words separates (text.dropWhile separates) = words separates text := by
  induction text with
  | nil => rfl
  | cons c rest ih =>
    by_cases h : separates c = true
    · rw [List.dropWhile_cons_of_pos h, ih, words_cons_of_separates h]
    · rw [List.dropWhile_cons_of_neg h]

theorem words_rdropWhile (separates : Char → Bool) (text : Text) :
    words separates (text.rdropWhile separates) = words separates text := by
  induction text using List.reverseRecOn with
  | nil => rfl
  | append_singleton rest c ih =>
    rw [List.rdropWhile_concat]
    split
    · next h => rw [ih, words_concat_of_separates h]
    · rfl

theorem words_trim (separates : Char → Bool) (text : Text) :
    words separates (text.trim separates) = words separates text :=
  (words_rdropWhile separates _).trans (words_dropWhile separates text)

theorem trim_concat_of_separates (h : separates c = true) (text : Text) :
    (text ++ [c]).trim separates = text.trim separates := by
  change ((text ++ [c]).dropWhile separates).rdropWhile separates =
    (text.dropWhile separates).rdropWhile separates
  rw [List.dropWhile_append]
  split
  · next nothing => rw [List.isEmpty_iff.1 nothing, List.dropWhile_cons_of_pos h]; rfl
  · rw [List.rdropWhile_concat_pos _ _ _ h]

/-- A text without separators is one word. -/
theorem words_eq_singleton {word : Text} (ne : word ≠ []) (h : ∀ c ∈ word, separates c = false) :
    words separates word = [word] := by
  rw [words, List.splitOnP_eq_singleton h, List.filter_cons_of_pos (by simpa using ne)]
  rfl

/-- Characters that only separate. -/
def Gap (separates : Char → Bool) (gap : Text) : Prop :=
  ∀ c ∈ gap, separates c = true

theorem Gap.words_append {gap : Text} (h : Gap separates gap) (text : Text) :
    words separates (gap ++ text) = words separates text := by
  rw [← words_dropWhile separates (gap ++ text), List.dropWhile_append_of_pos h, words_dropWhile]

/-- Between two texts it does not matter which separators stand, and how many. -/
theorem Gap.words_append_append {gap : Text} (h : Gap separates gap) (ne : gap ≠ []) (a b : Text) :
    words separates (a ++ gap ++ b) = words separates a ++ words separates b := by
  obtain ⟨c, rest, rfl⟩ := List.exists_cons_of_ne_nil ne
  obtain ⟨hc, hrest⟩ := List.forall_mem_cons.1 h
  rw [List.append_assoc, List.cons_append, words_append_cons hc, Gap.words_append hrest]

theorem Gap.append_words {gap : Text} (h : Gap separates gap) (text : Text) :
    words separates (text ++ gap) = words separates text := by
  by_cases empty : gap = []
  · rw [empty, List.append_nil]
  · have := h.words_append_append empty text []
    rwa [List.append_nil, words_nil, List.append_nil] at this

/-! ## Maximal runs -/

/-- The words are the maximal runs of characters of the text that do not separate, in order. -/
inductive Runs (separates : Char → Bool) : Text → List Text → Prop
  | nil {gap} (h : Gap separates gap) : Runs separates gap []
  | cons {gap word rest words} (before : Gap separates gap) (ne : word ≠ [])
      (inside : ∀ c ∈ word, separates c = false) (ends : ∀ c ∈ rest.head?, separates c = true)
      (later : Runs separates rest words) : Runs separates (gap ++ word ++ rest) (word :: words)

theorem Runs.words_eq {text : Text} {ws : List Text} (h : Runs separates text ws) :
    words separates text = ws := by
  induction h with
  | nil gap =>
    have := gap.words_append []
    rwa [List.append_nil, words_nil] at this
  | @cons gap word rest ws before ne inside ends later ih =>
    rw [List.append_assoc, before.words_append]
    cases rest with
    | nil =>
      rw [words_nil] at ih
      rw [← ih, List.append_nil, words_eq_singleton ne inside]
    | cons c rest =>
      have hc := ends c rfl
      rw [words_cons_of_separates hc] at ih
      rw [words_append_cons hc, words_eq_singleton ne inside, ih]
      rfl

/-- The first run of a text, and what stands around it. -/
theorem Runs.cut {text word : Text} {ws : List Text} (h : Runs separates text (word :: ws)) :
    ∃ gap rest, text = gap ++ (word ++ rest) ∧ Gap separates gap ∧ word ≠ [] ∧
      (∀ c ∈ word, separates c = false) ∧ (∀ c ∈ rest.head?, separates c = true) ∧
      Runs separates rest ws := by
  cases h with
  | cons before ne inside ends later =>
    exact ⟨_, _, List.append_assoc .., before, ne, inside, ends, later⟩

/-- The next run of a text that begins with a separator does not begin at once. -/
theorem Runs.cut_behind {text word : Text} {ws : List Text} (h : Runs separates text (word :: ws))
    (begins : ∀ c ∈ text.head?, separates c = true) :
    ∃ gap rest, text = gap ++ (word ++ rest) ∧ Gap separates gap ∧ gap ≠ [] ∧ word ≠ [] ∧
      (∀ c ∈ word, separates c = false) ∧ (∀ c ∈ rest.head?, separates c = true) ∧
      Runs separates rest ws := by
  obtain ⟨gap, rest, rfl, before, ne, inside, ends, later⟩ := h.cut
  refine ⟨gap, rest, rfl, before, ?_, ne, inside, ends, later⟩
  rintro rfl
  obtain ⟨c, tail, rfl⟩ := List.exists_cons_of_ne_nil ne
  have separator := begins c rfl
  rw [inside c List.mem_cons_self] at separator
  cases separator

theorem Runs.gap {text : Text} (h : Runs separates text []) : Gap separates text := by
  cases h with
  | nil gap => exact gap

/-- A run has at least one character, and no separator. -/
theorem Runs.of_mem {text : Text} {ws : List Text} (h : Runs separates text ws) :
    ∀ word ∈ ws, word ≠ [] ∧ ∀ c ∈ word, separates c = false := by
  induction h with
  | nil gap => exact nofun
  | cons before ne inside ends later ih => exact List.forall_mem_cons.2 ⟨⟨ne, inside⟩, ih⟩

/-- A character that does not separate is put before the first run, or makes a run of its own. -/
theorem Runs.exists_cons {text : Text} {ws : List Text} (h : Runs separates text ws)
    (hc : separates c = false) : ∃ ws', Runs separates (c :: text) ws' := by
  have single : ∀ d ∈ [c], separates d = false := by simpa using hc
  have alone : (∀ d ∈ text.head?, separates d = true) → ∃ ws', Runs separates (c :: text) ws' :=
    fun ends => ⟨_, @Runs.cons _ [] _ _ _ nofun (List.cons_ne_nil c []) single ends h⟩
  cases h with
  | nil gap => exact alone fun d hd => gap d (List.mem_of_mem_head? hd)
  | @cons gap word rest ws before ne inside ends later =>
    cases gap with
    | nil =>
      exact ⟨_, @Runs.cons _ [] _ _ _ nofun (List.cons_ne_nil c word)
        (List.forall_mem_cons.2 ⟨hc, inside⟩) ends later⟩
    | cons g gap => exact alone fun d hd => before d (by cases hd; exact List.mem_cons_self)

theorem exists_runs (separates : Char → Bool) (text : Text) : ∃ ws, Runs separates text ws := by
  induction text with
  | nil => exact ⟨[], .nil nofun⟩
  | cons c rest ih =>
    obtain ⟨ws, runs⟩ := ih
    cases hc : separates c with
    | false => exact runs.exists_cons hc
    | true =>
      refine ⟨ws, ?_⟩
      cases runs with
      | nil gap => exact .nil (List.forall_mem_cons.2 ⟨hc, gap⟩)
      | cons before ne inside ends later =>
        exact .cons (List.forall_mem_cons.2 ⟨hc, before⟩) ne inside ends later

/-- The words that are found are the maximal runs. -/
theorem words_eq_iff {text : Text} {ws : List Text} :
    words separates text = ws ↔ Runs separates text ws := by
  refine ⟨?_, Runs.words_eq⟩
  rintro rfl
  obtain ⟨ws, runs⟩ := exists_runs separates text
  exact runs.words_eq ▸ runs

end BracketCue.Text
