import BracketCue.Proofs.Line.Grammar

/-!
# Scripts one after the other

Scripts with a separator between them are read as one: first the presses of the one, then those of
the other. Which separators stand between words makes no difference, and how many. A script that is
not read has a first word that asks for no key, and the error is about this word: what stands before
it and after it is not told in the message.

* `readWords_append`: the error of words is the error of the first part that has one.
* `complains_of_readWord`: the message about a word says what is wrong with it, and has it in its
  own spelling.
* `exists_first_of_readWords`: the first word that asks for no key.
* `parse_append_separator`: scripts one after the other, and the error of a script.
-/
namespace BracketCue.Script

/-! ## Parts of a script -/

/-- The presses of both in order, or the error of the first that has one. -/
def followedBy (first later : Except Error (List Key)) : Except Error (List Key) :=
  match first, later with
  | .error e, _ => .error e
  | .ok _, .error e => .error e
  | .ok keys, .ok more => .ok (keys ++ more)

theorem readWords_append (before after : List Text) :
    readWords (before ++ after) = followedBy (readWords before) (readWords after) := by
  induction before with
  | nil =>
    rw [List.nil_append, readWords]
    cases readWords after <;> rfl
  | cons word rest ih =>
    rw [List.cons_append, readWords, readWords, ih]
    cases readWord word with
    | error e => rfl
    | ok keys =>
      cases readWords rest with
      | error e => rfl
      | ok more =>
        cases readWords after with
        | error e => rfl
        | ok last => exact congrArg Except.ok (List.append_assoc keys more last).symm

/-! ## What is wrong with a word -/

/-- The word has the form of a key with a count in parentheses, in digits of any script. -/
def Calls (word : Text) (key : Key) (digits : Text) : Prop :=
  Text.lowercase word = key.name ++ '(' :: (digits ++ [')']) ∧ digits ≠ [] ∧
    digits.all Text.isDecimalDigit = true

/-- What the message about a word says, and when. It has the word in its own spelling. -/
inductive Complains (word : Text) : Text → Prop
  | unknownKey (name : ∀ key : Key, Text.lowercase word ≠ key.name)
      (call : ∀ key digits, ¬Calls word key digits) :
      Complains word ("unknown key: ".toList ++ word)
  | otherDigit {key : Key} {before after : Text} {c : Char}
      (call : Calls word key (before ++ c :: after)) (decimal : ∀ d ∈ before, d.isDigit = true)
      (fits : Nat.ofDigitChars 10 before 0 ≤ Text.largestCount) (other : c.isDigit = false) :
      Complains word ("bad count in ".toList ++ word ++ ": invalid digit found in string".toList)
  | longCount {key : Key} {before after : Text} {c : Char}
      (call : Calls word key (before ++ c :: after)) (decimal : ∀ d ∈ before, d.isDigit = true)
      (fits : Nat.ofDigitChars 10 before 0 ≤ Text.largestCount) (digit : c.isDigit = true)
      (exceeds : Text.largestCount < Nat.ofDigitChars 10 (before ++ [c]) 0) :
      Complains word
        ("bad count in ".toList ++ word ++ ": number too large to fit in target type".toList)
  | countTooLarge {key : Key} {digits : Text} (call : Calls word key digits)
      (decimal : ∀ d ∈ digits, d.isDigit = true)
      (fits : Nat.ofDigitChars 10 digits 0 ≤ Text.largestCount)
      (exceeds : 10000 < Nat.ofDigitChars 10 digits 0) :
      Complains word ("count too large in ".toList ++ word ++ ", max is 10000".toList)

/-- The limit is told in digits. -/
theorem message_countTooLarge (word : Text) : (Error.countTooLarge word).message =
    "count too large in ".toList ++ word ++ ", max is 10000".toList := by
  have limit : ", max is ".toList ++ Text.decimal repeatLimit = ", max is 10000".toList := by
    decide +kernel
  exact (List.append_assoc _ _ _).trans (congrArg (_ ++ ·) limit)

theorem complains_of_readWord {word : Text} {e : Error} (h : readWord word = .error e) :
    Complains word e.message := by
  unfold readWord at h
  split at h
  · next none =>
    cases h
    refine .unknownKey (fun key named => ?_) fun key digits call => ?_
    · rw [shape?_eq_some_none_iff.2 named] at none
      cases none
    · rw [shape?_eq_some_some_iff.2 call] at none
      cases none
  · cases h
  · next key digits shape =>
    have call : Calls word key digits := shape?_eq_some_some_iff.1 shape
    split at h
    · next cause failed =>
      cases h
      obtain ⟨before, c, after, rfl, decimal, fits, fault⟩ :=
        Text.exists_of_readCountFrom_eq_error (Nat.zero_le _) failed
      rcases fault with ⟨rfl, other⟩ | ⟨rfl, digit, exceeds⟩
      · exact .otherDigit call decimal fits other
      · exact .longCount call decimal fits digit exceeds
    · next count value =>
      obtain ⟨decimal, rfl, fits⟩ := Text.readCount_eq_ok_iff.1 value
      split at h
      · cases h
      · next exceeds =>
        cases h
        rw [message_countTooLarge]
        exact .countTooLarge call decimal fits (Nat.lt_of_not_le exceeds)

/-! ## Scripts -/

/-- Words that are not read have a first one that asks for no key, and its error is theirs. -/
theorem exists_first_of_readWords {words : List Text} {e : Error} (h : readWords words = .error e) :
    ∃ good bad later, words = good ++ bad :: later ∧ (∀ word ∈ good, ∃ request, Asks word request) ∧
      readWord bad = .error e := by
  induction words with
  | nil => cases h
  | cons word rest ih =>
    rw [readWords] at h
    split at h
    · next read =>
      cases h
      exact ⟨[], word, rest, rfl, List.forall_mem_nil _, read⟩
    · next keys read =>
      split at h
      · next tail =>
        cases h
        obtain ⟨good, bad, later, rfl, asked, failed⟩ := ih tail
        obtain ⟨request, asks, -⟩ := readWord_eq_ok_iff.1 read
        have all := List.forall_mem_cons.2 ⟨⟨request, asks⟩, asked⟩
        exact ⟨word :: good, bad, later, rfl, all, failed⟩
      · cases h

/-- **Scripts one after the other.** Of two scripts with any separator between them:
* together they are the presses of the one and then of the other, or the error of the first that has
  one;
* any other separators in its place, one or more, change nothing;
* separators at either end change nothing;
* the error of a script is about its first word that asks for no key, as if it were the only word,
  and has it in its own spelling. -/
theorem parse_append_separator {s : Char} (hs : separates s = true) (a b : Text) :
    parse (a ++ s :: b) = followedBy (parse a) (parse b) ∧
    (∀ gap, gap ≠ [] → Text.Gap separates gap → parse (a ++ gap ++ b) = parse (a ++ s :: b)) ∧
    (∀ gap, Text.Gap separates gap → parse (gap ++ a) = parse a ∧ parse (a ++ gap) = parse a) ∧
    ∀ script e, parse script = .error e → ∃ good bad later,
      Text.Runs separates script (good ++ bad :: later) ∧
        (∀ word ∈ good, ∃ request, Asks word request) ∧ (∀ request, ¬Asks bad request) ∧
        parse bad = .error e ∧ Complains bad e.message := by
  refine ⟨?_, fun gap ne h => ?_, fun gap h => ⟨?_, ?_⟩, fun script e h => ?_⟩
  · rw [parse, Text.words_append_cons hs, readWords_append]
    rfl
  · rw [parse, h.words_append_append ne, parse, Text.words_append_cons hs]
  · rw [parse, h.words_append, parse]
  · rw [parse, h.append_words, parse]
  · obtain ⟨good, bad, later, words, asked, failed⟩ := exists_first_of_readWords h
    have runs := Text.words_eq_iff.1 words
    refine ⟨good, bad, later, runs, asked, fun request asks => ?_, ?_, complains_of_readWord failed⟩
    · have read := readWord_eq_ok_iff.2 ⟨request, asks, rfl⟩
      rw [failed] at read
      cases read
    · obtain ⟨ne, inside⟩ := runs.of_mem bad (List.mem_append_right _ List.mem_cons_self)
      rw [parse, Text.words_eq_singleton ne inside, readWords, failed]

/-- A comma between `Left(2)` and `up, home`: the first bad word is `up`. -/
theorem parse_append_comma :
    separates ',' = true ∧
    parse ("Left(2)".toList ++ ',' :: "up, home".toList) = .error (.unknownKey "up".toList) := by
  have comma : separates ',' = true := by decide
  refine ⟨comma, ?_⟩
  rw [(parse_append_separator comma _ _).1]
  rfl

end BracketCue.Script
