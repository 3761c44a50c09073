import BracketCue.Line.Script
import BracketCue.Proofs.Text.Lowercase
import BracketCue.Proofs.Text.Numeral
import BracketCue.Proofs.Text.Words
import Mathlib.Data.List.Forall2

/-!
# What a key script is

A word of a script is the name of a key in letters of either case, alone or with a count in
parentheses. Words are looked at in small letters of all scripts, and digits of all scripts are let
through to the reader of counts; yet no word is read that has a character beyond ASCII.

* `shape?_eq_some_none_iff`, `shape?_eq_some_some_iff`: which words in small letters have the form
  of a request.
* `readWord_eq_ok_iff`: a word is read exactly if it asks for a key.
* `parse_eq_ok_iff_asks`: the scripts that are read, and the presses that each stands for.
-/
namespace BracketCue

/-! ## Digits -/

namespace Text

/-- The digits 0 to 9 are in ASCII, are decimal digits, and are no letters. -/
theorem of_isDigit {c : Char} (h : c.isDigit = true) :
    IsAscii c ∧ isDecimalDigit c = true ∧ c ≠ 'k' ∧ c.isAlpha = false := by
  have ascii : IsAscii c := by
    simp only [Char.isDigit, Bool.and_eq_true, decide_eq_true_eq] at h
    have le : c.toNat ≤ 57 := UInt32.le_iff_toNat_le.1 h.2
    unfold IsAscii
    omega
  refine ⟨ascii, ?_⟩
  revert h
  exact forall_ascii (P := fun c => c.isDigit = true →
    isDecimalDigit c = true ∧ c ≠ 'k' ∧ c.isAlpha = false) (by decide) ascii

end Text

/-! ## Names -/

namespace Key

def name : Key → Text
  | .left => "left".toList
  | .right => "right".toList
  | .home => "home".toList
  | .end => "end".toList
  | .enter => "enter".toList

theorem ofName?_eq_some_iff {text : Text} {key : Key} :
    ofName? text = some key ↔ text = key.name := by
  constructor
  · intro h
    obtain ⟨before, later, split, -⟩ := List.lookup_eq_some_iff.1 h
    have mem : (text, key) ∈ names := split ▸ List.mem_append_right _ List.mem_cons_self
    have named : ∀ entry ∈ names, entry.1 = entry.2.name := by decide
    exact named _ mem
  · rintro rfl
    cases key <;> decide

theorem plain_of_mem_name {key : Key} :
    ∀ c ∈ key.name, (Text.IsAscii c ∧ c ≠ 'k') ∧ c ≠ '(' := by
  have all : key.name.all (fun c => decide ((Text.IsAscii c ∧ c ≠ 'k') ∧ c ≠ '(')) = true := by
    cases key <;> decide
  exact fun c hc => of_decide_eq_true (List.all_eq_true.1 all c hc)

end Key

/-! ## Words -/

namespace Script

/-- The word asks for so many presses of the key: once by its name, or as often as the count in
parentheses says. Letters may be of either case. -/
inductive Asks : Text → Key × Nat → Prop
  | once {word : Text} {key : Key} (named : Text.lowerAscii word = key.name) : Asks word (key, 1)
  | times {name digits : Text} {key : Key} (named : Text.lowerAscii name = key.name)
      (ne : digits ≠ []) (decimal : ∀ c ∈ digits, c.isDigit = true)
      (le : Nat.ofDigitChars 10 digits 0 ≤ 10000) :
      Asks (name ++ '(' :: (digits ++ [')'])) (key, Nat.ofDigitChars 10 digits 0)

def presses (request : Key × Nat) : List Key :=
  List.replicate request.2 request.1

theorem countOf?_eq_some_iff {inner digits : Text} :
    countOf? inner = some digits ↔
      inner = digits ++ [')'] ∧ digits ≠ [] ∧ digits.all Text.isDecimalDigit = true := by
  constructor
  · intro h
    unfold countOf? at h
    dsimp only at h
    split at h
    · next form =>
      obtain ⟨closed, ne, decimal⟩ := form
      cases h
      exact ⟨(List.dropLast_append_getLast? _ closed).symm, ne, decimal⟩
    · cases h
  · rintro ⟨rfl, form⟩
    unfold countOf?
    dsimp only
    rw [List.dropLast_concat, List.getLast?_concat]
    exact if_pos ⟨rfl, form⟩

/-- A name of a key ends where a parenthesis opens, or where the word ends. -/
theorem span_name (key : Key) (rest : Text) (h : ∀ c ∈ rest.head?, c = '(') :
    (key.name ++ rest).takeWhile (· ≠ '(') = key.name ∧
      (key.name ++ rest).dropWhile (· ≠ '(') = rest :=
  Text.span_append (fun c hc => decide_eq_true (Key.plain_of_mem_name c hc).2)
    fun c hc => decide_eq_false (not_not.2 (h c hc))

theorem shape?_name (key : Key) : shape? key.name = some (key, none) := by
  obtain ⟨name, after⟩ := span_name key [] nofun
  rw [List.append_nil] at name after
  rw [shape?, name, after, Key.ofName?_eq_some_iff.2 rfl]
  rfl

theorem shape?_name_append (key : Key) (inner : Text) :
    shape? (key.name ++ '(' :: inner) = (countOf? inner).map fun digits => (key, some digits) := by
  have opens : ∀ c ∈ ('(' :: inner).head?, c = '(' := fun c hc => (Option.some.inj hc).symm
  obtain ⟨name, after⟩ := span_name key ('(' :: inner) opens
  rw [shape?, name, after, Key.ofName?_eq_some_iff.2 rfl]
  change (countOf? inner).bind (fun digits => some (key, some digits)) = _
  cases countOf? inner <;> rfl

theorem name_of_shape? {word : Text} {found : Key × Option Text} (h : shape? word = some found) :
    word = found.1.name ∨ ∃ inner, word = found.1.name ++ '(' :: inner := by
  obtain ⟨key, named, found'⟩ := Option.bind_eq_some_iff.1 h
  have parts := List.takeWhile_append_dropWhile (p := fun c => decide (c ≠ '(')) (l := word)
  rw [Key.ofName?_eq_some_iff.1 named] at parts
  have stops := List.head?_dropWhile_not (fun c => decide (c ≠ '(')) word
  split at found'
  · next nothing =>
    cases found'
    rw [nothing, List.append_nil] at parts
    exact .inl parts.symm
  · next c inner opened =>
    obtain ⟨digits, -, same⟩ := Option.bind_eq_some_iff.1 found'
    cases same
    rw [opened] at parts stops
    obtain rfl : c = '(' := by simpa using stops
    exact .inr ⟨inner, parts.symm⟩

theorem shape?_eq_some_none_iff {word : Text} {key : Key} :
    shape? word = some (key, none) ↔ word = key.name := by
  constructor
  · intro h
    rcases name_of_shape? h with named | ⟨inner, rfl⟩
    · exact named
    · rw [shape?_name_append, Option.map_eq_some_iff] at h
      obtain ⟨digits, -, same⟩ := h
      cases same
  · rintro rfl
    exact shape?_name key

theorem shape?_eq_some_some_iff {word digits : Text} {key : Key} :
    shape? word = some (key, some digits) ↔
      word = key.name ++ '(' :: (digits ++ [')']) ∧ digits ≠ [] ∧
        digits.all Text.isDecimalDigit = true := by
  constructor
  · intro h
    rcases name_of_shape? h with rfl | ⟨inner, rfl⟩
    · rw [shape?_name] at h
      cases h
    · rw [shape?_name_append, Option.map_eq_some_iff] at h
      obtain ⟨digits, count, same⟩ := h
      cases same
      obtain ⟨rfl, form⟩ := countOf?_eq_some_iff.1 count
      exact ⟨rfl, form⟩
  · rintro ⟨rfl, form⟩
    rw [shape?_name_append, countOf?_eq_some_iff.2 ⟨rfl, form⟩]
    rfl

theorem plain_of_mem_count {digits : Text} (decimal : ∀ c ∈ digits, c.isDigit = true) :
    ∀ c ∈ '(' :: (digits ++ [')']), (Text.IsAscii c ∧ c ≠ 'k') ∧ c.isAlpha = false := by
  intro c hc
  rcases List.mem_cons.1 hc with rfl | hc
  · decide
  rcases List.mem_append.1 hc with digit | close
  · obtain ⟨ascii, -, notK, noLetter⟩ := Text.of_isDigit (decimal c digit)
    exact ⟨⟨ascii, notK⟩, noLetter⟩
  · rw [List.mem_singleton.1 close]
    decide

/-- A count of digits 0 to 9 is found in small letters of all scripts exactly if it stands in the
word, after the name in letters of either case. -/
theorem lowercase_eq_call_iff {word digits : Text} {key : Key}
    (decimal : ∀ c ∈ digits, c.isDigit = true) :
    Text.lowercase word = key.name ++ '(' :: (digits ++ [')']) ↔
      ∃ name, word = name ++ '(' :: (digits ++ [')']) ∧ Text.lowerAscii name = key.name := by
  have plain : ∀ c ∈ key.name ++ '(' :: (digits ++ [')']), Text.IsAscii c ∧ c ≠ 'k' :=
    List.forall_mem_append.2 ⟨fun c hc => (Key.plain_of_mem_name c hc).1,
      fun c hc => (plain_of_mem_count decimal c hc).1⟩
  rw [Text.lowercase_eq_iff plain,
    Text.lowerAscii_eq_append_iff fun c hc => (plain_of_mem_count decimal c hc).2]

/-- A word is read exactly if it asks for a key, and then as the presses it asks for. -/
theorem readWord_eq_ok_iff {word : Text} {keys : List Key} :
    readWord word = .ok keys ↔ ∃ request, Asks word request ∧ presses request = keys := by
  constructor
  · intro h
    unfold readWord at h
    split at h
    · cases h
    · next key shape =>
      cases h
      have named := shape?_eq_some_none_iff.1 shape
      rw [Text.lowercase_eq_iff fun c hc => (Key.plain_of_mem_name c hc).1] at named
      exact ⟨(key, 1), .once named, rfl⟩
    · next key digits shape =>
      obtain ⟨lower, ne, -⟩ := shape?_eq_some_some_iff.1 shape
      split at h
      · cases h
      · next count value =>
        obtain ⟨decimal, rfl, -⟩ := Text.readCount_eq_ok_iff.1 value
        obtain ⟨name, rfl, named⟩ := (lowercase_eq_call_iff decimal).1 lower
        split at h
        · next within =>
          cases h
          exact ⟨_, .times named ne decimal within, rfl⟩
        · cases h
  · rintro ⟨request, asks, rfl⟩
    cases asks with
    | @once _ key named =>
      have lower := (Text.lowercase_eq_iff fun c hc => (Key.plain_of_mem_name c hc).1).2 named
      rw [readWord, lower, shape?_name]
      rfl
    | @times name digits key named ne decimal le =>
      have lower := (lowercase_eq_call_iff decimal).2 ⟨name, rfl, named⟩
      have anyScript : digits.all Text.isDecimalDigit = true :=
        List.all_eq_true.2 fun c hc => (Text.of_isDigit (decimal c hc)).2.1
      have fits : Nat.ofDigitChars 10 digits 0 ≤ Text.largestCount :=
        le.trans (by decide)
      rw [readWord, lower, shape?_eq_some_some_iff.2 ⟨rfl, ne, anyScript⟩]
      dsimp only
      rw [Text.readCount_eq_ok_iff.2 ⟨decimal, rfl, fits⟩]
      exact if_pos le

/-- A word that asks for a key has no character beyond ASCII. -/
theorem Asks.isAscii {word : Text} {request : Key × Nat} (h : Asks word request) :
    ∀ c ∈ word, Text.IsAscii c := by
  have isAscii_name {name : Text} {key : Key} (named : Text.lowerAscii name = key.name) :
      ∀ c ∈ name, Text.IsAscii c :=
    Text.isAscii_of_lowerAscii fun d hd => (Key.plain_of_mem_name d (named ▸ hd)).1.1
  cases h with
  | once named => exact isAscii_name named
  | times named ne decimal le =>
    exact List.forall_mem_append.2
      ⟨isAscii_name named, fun c hc => (plain_of_mem_count decimal c hc).1.1⟩

/-! ## Scripts -/

theorem readWords_eq_ok_iff {words : List Text} {keys : List Key} :
    readWords words = .ok keys ↔
      ∃ requests, List.Forall₂ Asks words requests ∧ requests.flatMap presses = keys := by
  induction words generalizing keys with
  | nil => simp [readWords, eq_comm]
  | cons word rest ih =>
    constructor
    · intro h
      rw [readWords] at h
      split at h
      · cases h
      · next first read =>
        split at h
        · cases h
        · next more later =>
          cases h
          obtain ⟨request, asks, rfl⟩ := readWord_eq_ok_iff.1 read
          obtain ⟨requests, asked, rfl⟩ := ih.1 later
          exact ⟨request :: requests, .cons asks asked, rfl⟩
    · rintro ⟨requests, asked, rfl⟩
      cases asked with
      | cons asks asked =>
        rw [readWords, readWord_eq_ok_iff.2 ⟨_, asks, rfl⟩, ih.2 ⟨_, asked, rfl⟩]
        rfl

theorem exists_forall₂_iff {α β : Type} {R : α → β → Prop} {as : List α} :
    (∃ bs, List.Forall₂ R as bs) ↔ ∀ a ∈ as, ∃ b, R a b := by
  induction as with
  | nil => exact ⟨nofun, fun _ => ⟨[], .nil⟩⟩
  | cons a as ih =>
    rw [List.forall_mem_cons, ← ih]
    constructor
    · rintro ⟨_, _ | ⟨first, later⟩⟩
      exact ⟨⟨_, first⟩, ⟨_, later⟩⟩
    · rintro ⟨⟨b, first⟩, ⟨bs, later⟩⟩
      exact ⟨b :: bs, .cons first later⟩

/-- **What a script is.** Of any script, whose words are its maximal runs of characters that are
neither white space nor commas:
* it is read as the presses that its words ask for, one word after the other;
* it is read exactly if every word asks for a key;
* a word with a character beyond ASCII makes it an error. -/
theorem parse_eq_ok_iff_asks (script : Text) :
    (∀ keys, parse script = .ok keys ↔
      ∃ words requests, Text.Runs separates script words ∧ List.Forall₂ Asks words requests ∧
        requests.flatMap presses = keys) ∧
    ((∃ keys, parse script = .ok keys) ↔
      ∀ words, Text.Runs separates script words → ∀ word ∈ words, ∃ request, Asks word request) ∧
    ∀ words, Text.Runs separates script words →
      (∃ word ∈ words, ∃ c ∈ word, ¬Text.IsAscii c) → ∃ e, parse script = .error e := by
  obtain ⟨words, runs⟩ := Text.exists_runs separates script
  have found := runs.words_eq
  have only {other : List Text} (h : Text.Runs separates script other) : other = words :=
    h.words_eq.symm.trans found
  have asked :
      (∃ keys, parse script = .ok keys) ↔ ∀ word ∈ words, ∃ request, Asks word request := by
    rw [← exists_forall₂_iff, parse, found]
    simp only [readWords_eq_ok_iff]
    exact ⟨fun ⟨_, requests, h, _⟩ => ⟨requests, h⟩, fun ⟨requests, h⟩ => ⟨_, requests, h, rfl⟩⟩
  refine ⟨fun keys => ?_, ?_, ?_⟩
  · rw [parse, found, readWords_eq_ok_iff]
    constructor
    · rintro ⟨requests, h, same⟩
      exact ⟨words, requests, runs, h, same⟩
    · rintro ⟨other, requests, otherRuns, h, same⟩
      obtain rfl := only otherRuns
      exact ⟨requests, h, same⟩
  · rw [asked]
    constructor
    · intro h other otherRuns
      rwa [only otherRuns]
    · exact fun h => h words runs
  · rintro other otherRuns ⟨word, mem, c, hc, beyond⟩
    obtain rfl := only otherRuns
    cases result : parse script with
    | error e => exact ⟨e, rfl⟩
    | ok keys =>
      obtain ⟨request, asks⟩ := asked.1 ⟨keys, result⟩ word mem
      exact absurd (asks.isAscii c hc) beyond

end Script
end BracketCue
