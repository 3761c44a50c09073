import BracketCue.Proofs.Terminal.Emulator

/-!
# The visible form loses nothing

What is sent for operations, with each escape character made visible, still tells which operations
they were. A caret and a bracket alone may be an escape character or just that; but every operation
begins with an escape character, so that after a character that is written there is either nothing
or a caret, and a reader who looks one character ahead is never in doubt.

* `readSequence_visible`: a sequence is read as its parameters and its last character.
* `readChar_visible`: a written character is read, whichever it is.
* `readOp_visible`: what is shown for an operation is read as the operation.
* `visible_escapes_injective`: no two lists of operations are shown as the same text.
-/
namespace BracketCue.Terminal

/-! ## The reader -/

/-- Reads a sequence: its parameters, its last character, and what follows. -/
def readSequence : Text → Option (Text × Char × Text)
  | '^' :: '[' :: '[' :: body =>
    match body.dropWhile isParameter with
    | [] => none
    | final :: rest => some (body.takeWhile isParameter, final, rest)
  | _ => none

/-- What follows a sequence. -/
def skipSequence (text : Text) : Option Text :=
  (readSequence text).map fun (_, _, rest) => rest

/-- Reads a character, a visible escape character as what it stands for, and what follows. -/
def readChar : Text → Option (Char × Text)
  | [] => none
  | '^' :: '[' :: rest => some (esc, rest)
  | c :: rest => some (c, rest)

/-- Reads the character that an operation writes. -/
def readWritten (write : Char → Op) (text : Text) : Option (Op × Text) :=
  (readChar text).map fun (c, rest) => (write c, rest)

def moveOf? (count : Nat) : Char → Option Op
  | 'A' => some (.up count)
  | 'B' => some (.down count)
  | 'C' => some (.right count)
  | 'D' => some (.left count)
  | _ => none

/-- Reads the rest of an operation that began with a sequence. The style says whether the sequence
of the colors is still to come after that of the weight. -/
def readAfter (style : Style) (parameters : Text) (final : Char) (rest : Text) :
    Option (Op × Text) :=
  if final ≠ 'm' then (moveOf? (Nat.ofDigitChars 10 parameters 0) final).map (·, rest)
  else if parameters = ['0', ';', '2', '2'] then
    (skipSequence rest).bind (readWritten .unhighlight)
  else if style.bold then (skipSequence rest).bind (readWritten .highlight)
  else readWritten .highlight rest

def readOp (style : Style) : Text → Option (Op × Text)
  | '^' :: '[' :: '7' :: rest => some (.save, rest)
  | '^' :: '[' :: '8' :: rest => some (.restore, rest)
  | text => (readSequence text).bind fun (parameters, final, rest) =>
    readAfter style parameters final rest

/-! ## Reading what is shown -/

theorem visible_cons_esc (text : Text) : visible (esc :: text) = '^' :: '[' :: visible text := rfl

theorem visible_cons {c : Char} (h : c ≠ esc) (text : Text) :
    visible (c :: text) = c :: visible text := by
  rw [visible, List.flatMap_cons, if_neg h]
  rfl

theorem visible_append_of_not_mem {a : Text} (h : esc ∉ a) (b : Text) :
    visible (a ++ b) = a ++ visible b := by
  induction a with
  | nil => rfl
  | cons c rest ih =>
    obtain ⟨hc, hrest⟩ := List.ne_and_not_mem_of_not_mem_cons h
    rw [List.cons_append, visible_cons hc.symm, ih hrest]
    rfl

theorem head?_visible {text : Text} (h : text.head? ≠ some '[') :
    (visible text).head? ≠ some '[' := by
  cases text with
  | nil => exact h
  | cons c rest =>
    by_cases hc : c = esc
    · subst hc
      rw [visible_cons_esc]
      simp
    · rwa [visible_cons hc]

section
variable {parameters rest : Text} {final : Char} (style : Style)

theorem esc_not_mem_of_parameters (h : ∀ c ∈ parameters, isParameter c) : esc ∉ parameters :=
  fun hesc => absurd (h esc hesc) (by decide)

theorem readSequence_visible (h : ∀ c ∈ parameters, isParameter c) (final : Char)
    (hf : isParameter final = false) (plain : final ≠ esc) (rest : Text) :
    readSequence (visible (esc :: '[' :: (parameters ++ final :: rest))) =
      some (parameters, final, visible rest) := by
  have ends : ¬isParameter final = true := by simp [hf]
  rw [visible_cons_esc, visible_cons (by decide),
    visible_append_of_not_mem (esc_not_mem_of_parameters h), visible_cons plain, readSequence,
    List.dropWhile_append_of_pos h, List.takeWhile_append_of_pos h, List.dropWhile_cons_of_neg ends,
    List.takeWhile_cons_of_neg ends, List.append_nil]

theorem skipSequence_visible (h : ∀ c ∈ parameters, isParameter c) (final : Char)
    (hf : isParameter final = false) (plain : final ≠ esc) (rest : Text) :
    skipSequence (visible (esc :: '[' :: (parameters ++ final :: rest))) = some (visible rest) := by
  rw [skipSequence, readSequence_visible h final hf plain]
  rfl

/-- A caret that is written is not taken for half an escape character, as no bracket follows it. -/
theorem readChar_visible (c : Char) (h : rest.head? ≠ some '[') :
    readChar (visible (c :: rest)) = some (c, visible rest) := by
  by_cases hc : c = esc
  · subst hc
    rfl
  · have follows := head?_visible h
    rw [visible_cons hc]
    unfold readChar
    split
    · next eq => cases eq
    · next eq =>
      obtain ⟨-, eq⟩ := List.cons.inj eq
      rw [eq] at follows
      exact absurd rfl follows
    · next eq =>
      obtain ⟨rfl, rfl⟩ := List.cons.inj eq
      rfl

theorem readWritten_visible (write : Char → Op) (c : Char) (h : rest.head? ≠ some '[') :
    readWritten write (visible (c :: rest)) = some (write c, visible rest) := by
  rw [readWritten, readChar_visible c h]
  rfl

theorem readOp_of_readSequence {text : Text}
    (h : readSequence text = some (parameters, final, rest)) :
    readOp style text = readAfter style parameters final rest := by
  unfold readOp
  split
  · cases h
  · cases h
  · rw [h]
    rfl

theorem readOp_move (n : Nat) (hf : isParameter final = false)
    (letter : final ≠ esc ∧ final ≠ 'm') {op : Op} (h : moveOf? n final = some op) (rest : Text) :
    readOp style (visible (moveSequence n final ++ rest)) = some (op, visible rest) := by
  have digits : ∀ c ∈ Text.decimal n, isParameter c := fun _ =>
    Emulator.isParameter_of_mem_decimal
  have sequence := readSequence_visible digits final hf letter.1 rest
  have text : moveSequence n final ++ rest = esc :: '[' :: (Text.decimal n ++ final :: rest) := by
    simp [moveSequence]
  rw [text, readOp_of_readSequence style sequence, readAfter, if_pos letter.2, Text.decimal,
    Nat.ofDigitChars_ten_toDigits, h]
  rfl

def Style.colorParameters (s : Style) : Text :=
  [';', '3', '9', ';'] ++ Text.decimal s.background

theorem Style.isParameter_of_mem_colorParameters (s : Style) :
    ∀ c ∈ s.colorParameters, isParameter c := by
  intro c h
  rcases List.mem_append.1 h with h | h
  · exact List.all_eq_true.1 (rfl : [';', '3', '9', ';'].all isParameter = true) c h
  · exact Emulator.isParameter_of_mem_decimal h

/-- The parameters of a lit character's first sequence are not those of an unlit one's: that is
where the two are told apart. -/
theorem readOp_highlight (c : Char) (h : rest.head? ≠ some '[') :
    readOp style (visible (style.highlightSequence ++ c :: rest)) =
      some (.highlight c, visible rest) := by
  have colors := style.isParameter_of_mem_colorParameters
  have written := readWritten_visible .highlight c h
  cases bold : style.bold with
  | true =>
    have text : style.highlightSequence ++ c :: rest = esc :: '[' ::
        (['1'] ++ 'm' :: esc :: '[' :: (style.colorParameters ++ 'm' :: c :: rest)) := by
      simp [Style.highlightSequence, Style.colorParameters, bold]
    have weight : ∀ c ∈ ['1'], isParameter c := List.all_eq_true.1 rfl
    have first := readSequence_visible weight 'm' rfl (by decide)
      (esc :: '[' :: (style.colorParameters ++ 'm' :: c :: rest))
    have second := skipSequence_visible colors 'm' rfl (by decide) (c :: rest)
    rw [text, readOp_of_readSequence style first, readAfter, if_neg (by simp), if_neg (by simp),
      if_pos bold, second]
    exact written
  | false =>
    have text : style.highlightSequence ++ c :: rest =
        esc :: '[' :: (style.colorParameters ++ 'm' :: c :: rest) := by
      simp [Style.highlightSequence, Style.colorParameters, bold]
    have first := readSequence_visible colors 'm' rfl (by decide) (c :: rest)
    have told : style.colorParameters ≠ ['0', ';', '2', '2'] := by simp [Style.colorParameters]
    rw [text, readOp_of_readSequence style first, readAfter, if_neg (by simp), if_neg told,
      if_neg (by simp [bold])]
    exact written

theorem readOp_unhighlight (c : Char) (h : rest.head? ≠ some '[') :
    readOp style (visible (Style.plainSequence ++ c :: rest)) =
      some (.unhighlight c, visible rest) := by
  have text : Style.plainSequence ++ c :: rest = esc :: '[' :: (['0', ';', '2', '2'] ++ 'm' ::
      esc :: '[' :: ([';', '3', '9', ';', '4', '9'] ++ 'm' :: c :: rest)) := rfl
  have reset : ∀ c ∈ ['0', ';', '2', '2'], isParameter c := List.all_eq_true.1 rfl
  have defaults : ∀ c ∈ [';', '3', '9', ';', '4', '9'], isParameter c := List.all_eq_true.1 rfl
  have first := readSequence_visible reset 'm' rfl (by decide)
    (esc :: '[' :: ([';', '3', '9', ';', '4', '9'] ++ 'm' :: c :: rest))
  have second := skipSequence_visible defaults 'm' rfl (by decide) (c :: rest)
  rw [text, readOp_of_readSequence style first, readAfter, if_neg (by simp), if_pos rfl, second]
  exact readWritten_visible .unhighlight c h

/-- What is shown for an operation is read as the operation. -/
theorem readOp_visible (op : Op) (h : rest.head? ≠ some '[') :
    readOp style (visible (op.escapes style ++ rest)) = some (op, visible rest) := by
  cases op with
  | left n => exact readOp_move style n rfl (by decide) rfl rest
  | right n => exact readOp_move style n rfl (by decide) rfl rest
  | up n => exact readOp_move style n rfl (by decide) rfl rest
  | down n => exact readOp_move style n rfl (by decide) rfl rest
  | save | restore => rfl
  | highlight c =>
    rw [Op.escapes, List.append_assoc]
    exact readOp_highlight style c h
  | unhighlight c =>
    rw [Op.escapes, List.append_assoc]
    exact readOp_unhighlight style c h

/-! ## Operations one after the other -/

/-- Every operation begins with an escape character, and so what is sent never begins with a
bracket. -/
theorem head?_escapes (ops : List Op) : (escapes style ops).head? ≠ some '[' := by
  cases ops with
  | nil => nofun
  | cons op rest =>
    obtain ⟨tail, htail⟩ : ∃ tail, op.escapes style = esc :: tail := by
      cases op with
      | highlight c =>
        rw [Op.escapes, Style.highlightSequence]
        cases style.bold <;> exact ⟨_, rfl⟩
      | left n | right n | up n | down n => exact ⟨_, rfl⟩
      | save | restore | unhighlight c => exact ⟨_, rfl⟩
    rw [escapes, List.flatMap_cons, htail]
    simp [esc]

theorem readOp_visible_escapes (op : Op) (rest : List Op) :
    readOp style (visible (escapes style (op :: rest))) =
      some (op, visible (escapes style rest)) :=
  readOp_visible style op (head?_escapes style rest)

end

/-- No two lists of operations are shown as the same text in a style, whatever their counts and
characters, although there are texts that are shown alike: an escape character, and a caret with a
bracket. -/
theorem visible_escapes_injective (style : Style) :
    Function.Injective (fun ops => visible (escapes style ops)) ∧ ¬Function.Injective visible := by
  refine ⟨fun a b h => ?_, fun injective => ?_⟩
  · induction a generalizing b with
    | nil =>
      cases b with
      | nil => rfl
      | cons op rest =>
        have read := congrArg (readOp style) h
        rw [readOp_visible_escapes] at read
        cases read
    | cons op rest ih =>
      have read := congrArg (readOp style) h
      rw [readOp_visible_escapes] at read
      cases b with
      | nil => cases read
      | cons op' rest' =>
        rw [readOp_visible_escapes] at read
        obtain ⟨rfl, same⟩ := Prod.mk.inj (Option.some.inj read)
        rw [ih rest' same]
  · have alike : visible [esc] = visible ['^', '['] := rfl
    exact absurd (injective alike) (by decide)

end BracketCue.Terminal
