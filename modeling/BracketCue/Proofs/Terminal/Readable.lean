import BracketCue.Proofs.Text.Words
import BracketCue.Terminal.Spelling
import Mathlib.Data.Nat.Digits.Defs

/-!
# Operations by name are read back

The names of operations are joined by spaces, and an operation may write a space, a quotation mark
or a parenthesis; so the text is not to be cut at its spaces. It is read from the left instead. A
name ends where its small letters end, a count where its digits end, and a quoted character is
either one character that stands for itself or an escape that says where it ends.

* `ofHexadecimal_hexadecimal`: a hexadecimal numeral is read as its number.
* `readQuotedChar_quotedChar`: what stands for a character between single quotation marks is read as
  the character, whichever it is.
* `readNamed_spell`: an operation by name is read as the operation.
* `spell_injective`: no two lists of operations have the same names.
-/
namespace BracketCue

namespace Text

/-! ## Numerals -/

/-- The value of a hexadecimal digit in small letters. -/
def hexadecimalDigit (c : Char) : Nat :=
  if c.isDigit then c.toNat - '0'.toNat else c.toNat - 'a'.toNat + 10

/-- The number of a hexadecimal numeral in small letters. -/
def ofHexadecimal (numeral : Text) : Nat :=
  numeral.foldl (fun n c => 16 * n + hexadecimalDigit c) 0

theorem hexadecimalDigit_digitChar :
    ∀ d < 16, hexadecimalDigit (Nat.digitChar d) = d ∧ Nat.digitChar d ≠ '\x7d' := by
  decide

/-- No digit is the brace that ends an escape. -/
theorem ofHexadecimal_hexadecimal (n : Nat) :
    ofHexadecimal (hexadecimal n) = n ∧ '\x7d' ∉ hexadecimal n := by
  induction n using Nat.base_induction 16 (by decide) with
  | single m small =>
    obtain ⟨value, brace⟩ := hexadecimalDigit_digitChar m small
    rw [hexadecimal, Nat.toDigits_of_lt_base small, List.mem_singleton]
    exact ⟨by simpa [ofHexadecimal] using value, brace.symm⟩
  | digit m d small pos ih =>
    obtain ⟨value, brace⟩ := hexadecimalDigit_digitChar d small
    rw [hexadecimal, ← Nat.toDigits_append_toDigits (by decide) pos small,
      Nat.toDigits_of_lt_base small, ofHexadecimal, List.foldl_append, List.mem_append]
    refine ⟨?_, not_or.2 ⟨ih.2, mt List.mem_singleton.1 brace.symm⟩⟩
    change 16 * ofHexadecimal (hexadecimal m) + hexadecimalDigit (Nat.digitChar d) = 16 * m + d
    rw [ih.1, value]

/-! ## Quoted characters -/

/-- Reads a code point in braces, and what follows. -/
def readCodePoint (text : Text) : Option (Char × Text) :=
  let body := text.drop 1
  match body.dropWhile (· ≠ '\x7d') with
  | [] => none
  | _ :: rest => some (Char.ofNat (ofHexadecimal (body.takeWhile (· ≠ '\x7d'))), rest)

/-- The characters that are escaped by a letter or a digit. -/
def escapeLetters : List (Char × Char) :=
  [('0', '\x00'), ('t', '\t'), ('n', '\n'), ('r', '\r')]

/-- Reads the rest of an escape, and what follows. Where no letter is meant, the character stands
for itself. -/
def readEscape : Text → Option (Char × Text)
  | [] => none
  | c :: rest =>
    if c = 'u' then readCodePoint rest else some ((escapeLetters.lookup c).getD c, rest)

/-- Reads what stands for a character between single quotation marks, and what follows. -/
def readQuotedChar : Text → Option (Char × Text)
  | [] => none
  | c :: rest => if c = '\\' then readEscape rest else some (c, rest)

theorem readCodePoint_braces (c : Char) (rest : Text) :
    readCodePoint ('\x7b' :: (hexadecimal c.toNat ++ '\x7d' :: rest)) = some (c, rest) := by
  obtain ⟨value, brace⟩ := ofHexadecimal_hexadecimal c.toNat
  have digits : ∀ d ∈ hexadecimal c.toNat, decide (d ≠ '\x7d') = true := fun d hd =>
    decide_eq_true fun eq => brace (eq ▸ hd)
  obtain ⟨numeral, after⟩ := span_append digits (b := '\x7d' :: rest) (by simp)
  rw [readCodePoint, List.drop_one, List.tail_cons, after, numeral, value, Char.ofNat_toNat]

theorem readQuotedChar_codePointEscape (c : Char) (rest : Text) :
    readQuotedChar (codePointEscape c ++ rest) = some (c, rest) := by
  have text : codePointEscape c ++ rest =
      '\\' :: 'u' :: '\x7b' :: (hexadecimal c.toNat ++ '\x7d' :: rest) := by
    simp [codePointEscape]
  rw [text, readQuotedChar, if_pos rfl, readEscape, if_pos rfl, readCodePoint_braces]

/-- What is written for a character tells which one it is, and where it ends. -/
theorem readQuotedChar_quotedChar (c : Char) (rest : Text) :
    readQuotedChar (quotedChar '\x27' c ++ rest) = some (c, rest) := by
  unfold quotedChar
  split
  · rfl
  · rfl
  · rfl
  · rfl
  · rfl
  · next backslash =>
    split
    · next mark => subst mark; rfl
    split
    · exact readQuotedChar_codePointEscape c rest
    · rw [List.singleton_append, readQuotedChar, if_neg backslash]

end Text

namespace Terminal

/-! ## The reader -/

/-- An operation apart from its argument. -/
inductive OpForm
  | plain (op : Op)
  | counted (op : Nat → Op)
  | editing (op : Char → Op)

def opNames : List (Text × OpForm) :=
  [("left".toList, .counted .left), ("right".toList, .counted .right), ("up".toList, .counted .up),
   ("down".toList, .counted .down), ("save".toList, .plain .save),
   ("restore".toList, .plain .restore), ("highlight".toList, .editing .highlight),
   ("unhighlight".toList, .editing .unhighlight)]

/-- Reads a count in parentheses. -/
def readCounted (op : Nat → Op) : Text → Option (Op × Text)
  | '(' :: body =>
    match body.dropWhile Char.isDigit with
    | ')' :: rest => some (op (Nat.ofDigitChars 10 (body.takeWhile Char.isDigit) 0), rest)
    | _ => none
  | _ => none

/-- Reads a quoted character in parentheses. -/
def readEditing (op : Char → Op) : Text → Option (Op × Text)
  | '(' :: '\x27' :: body =>
    match Text.readQuotedChar body with
    | some (c, '\x27' :: ')' :: rest) => some (op c, rest)
    | _ => none
  | _ => none

/-- Reads the argument of an operation, and what follows. -/
def OpForm.read : OpForm → Text → Option (Op × Text)
  | .plain op, rest => some (op, rest)
  | .counted op, text => readCounted op text
  | .editing op, text => readEditing op text

/-- Reads the name of an operation and then its argument, and what follows. -/
def readNamed (text : Text) : Option (Op × Text) :=
  (opNames.lookup (text.takeWhile Char.isLower)).bind fun form =>
    form.read (text.dropWhile Char.isLower)

/-! ## Reading what is spelled -/

section
variable {rest : Text}

theorem readNamed_append {name : Text} {form : OpForm} (named : opNames.lookup name = some form)
    (letters : name.all Char.isLower = true) (stops : ∀ c ∈ rest.head?, c.isLower = false) :
    readNamed (name ++ rest) = form.read rest := by
  obtain ⟨first, after⟩ := Text.span_append (List.all_eq_true.1 letters) stops
  rw [readNamed, first, after, named]
  rfl

theorem readCounted_decimal (op : Nat → Op) (n : Nat) (rest : Text) :
    readCounted op ('(' :: (Text.decimal n ++ ')' :: rest)) = some (op n, rest) := by
  have digits : ∀ c ∈ Text.decimal n, c.isDigit = true := fun _ =>
    Nat.isDigit_of_mem_toDigits (by decide) (by decide)
  obtain ⟨numeral, after⟩ := Text.span_append digits (b := ')' :: rest) (by simp)
  rw [readCounted, after, numeral, Text.decimal, Nat.ofDigitChars_ten_toDigits]
  rfl

theorem readEditing_quoted (op : Char → Op) (c : Char) (rest : Text) :
    readEditing op ('(' :: (Text.quotedSingle c ++ ')' :: rest)) = some (op c, rest) := by
  have text : Text.quotedSingle c ++ ')' :: rest =
      '\x27' :: (Text.quotedChar '\x27' c ++ '\x27' :: ')' :: rest) := by
    simp [Text.quotedSingle, Text.quotedBy]
  rw [text, readEditing, Text.readQuotedChar_quotedChar]
  rfl

theorem readNamed_plain {name : Text} {op : Op} (named : opNames.lookup name = some (.plain op))
    (letters : name.all Char.isLower = true) (stops : ∀ c ∈ rest.head?, c.isLower = false) :
    readNamed (name ++ rest) = some (op, rest) :=
  readNamed_append named letters stops

theorem readNamed_call {name argument : Text} {form : OpForm}
    (named : opNames.lookup name = some form) (letters : name.all Char.isLower = true) :
    readNamed (call name argument ++ rest) = form.read ('(' :: (argument ++ ')' :: rest)) := by
  have text : call name argument ++ rest = name ++ '(' :: (argument ++ ')' :: rest) := by
    simp [call]
  rw [text, readNamed_append named letters (by simp)]

theorem readNamed_counted {name : Text} {op : Nat → Op}
    (named : opNames.lookup name = some (.counted op)) (letters : name.all Char.isLower = true)
    (n : Nat) : readNamed (call name (Text.decimal n) ++ rest) = some (op n, rest) :=
  (readNamed_call named letters).trans (readCounted_decimal op n rest)

theorem readNamed_editing {name : Text} {op : Char → Op}
    (named : opNames.lookup name = some (.editing op)) (letters : name.all Char.isLower = true)
    (c : Char) : readNamed (call name (Text.quotedSingle c) ++ rest) = some (op c, rest) :=
  (readNamed_call named letters).trans (readEditing_quoted op c rest)

/-- An operation by name is read as the operation, if no letter follows that could be taken for one
of its name. -/
theorem readNamed_spell (op : Op) (stops : ∀ c ∈ rest.head?, c.isLower = false) :
    readNamed (op.spell ++ rest) = some (op, rest) := by
  cases op with
  | left n | right n | up n | down n => exact readNamed_counted (by rfl) (by rfl) n
  | save | restore => exact readNamed_plain (by rfl) (by rfl) stops
  | highlight c | unhighlight c => exact readNamed_editing (by rfl) (by rfl) c

/-! ## Operations one after the other -/

/-- Operations by name, a space before each. -/
def spellAfter (ops : List Op) : Text :=
  ops.flatMap fun op => ' ' :: op.spell

theorem spell_cons (op : Op) (rest : List Op) :
    spell (op :: rest) = op.spell ++ spellAfter rest := by
  induction rest generalizing op with
  | nil => exact (List.append_nil _).symm
  | cons op' rest ih =>
    change op.spell ++ [' '] ++ spell (op' :: rest) = op.spell ++ spellAfter (op' :: rest)
    rw [ih, List.append_assoc]
    rfl

theorem readNamed_spell_append (op : Op) (rest : List Op) :
    readNamed (op.spell ++ spellAfter rest) = some (op, spellAfter rest) := by
  refine readNamed_spell op fun c hc => ?_
  cases rest with
  | nil => cases hc
  | cons op' rest =>
    cases hc
    rfl

end

theorem spellAfter_injective : Function.Injective spellAfter := by
  intro a b h
  induction a generalizing b with
  | nil =>
    cases b with
    | nil => rfl
    | cons op' rest' => cases h
  | cons op rest ih =>
    cases b with
    | nil => cases h
    | cons op' rest' =>
      have same : op.spell ++ spellAfter rest = op'.spell ++ spellAfter rest' := (List.cons.inj h).2
      have read := congrArg readNamed same
      rw [readNamed_spell_append, readNamed_spell_append] at read
      obtain ⟨rfl, after⟩ := Prod.mk.inj (Option.some.inj read)
      rw [ih after]

/-- No two lists of operations have the same names, whatever their counts and characters. -/
theorem spell_injective : Function.Injective spell := by
  intro a b h
  have read := congrArg readNamed h
  cases a with
  | nil =>
    cases b with
    | nil => rfl
    | cons op' rest' =>
      rw [spell_cons, readNamed_spell_append] at read
      cases read
  | cons op rest =>
    rw [spell_cons, readNamed_spell_append] at read
    cases b with
    | nil => cases read
    | cons op' rest' =>
      rw [spell_cons, readNamed_spell_append] at read
      obtain ⟨rfl, after⟩ := Prod.mk.inj (Option.some.inj read)
      rw [spellAfter_injective after]

end Terminal
end BracketCue
