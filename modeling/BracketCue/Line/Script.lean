import BracketCue.Line.Key
import BracketCue.Text.Blank
import BracketCue.Text.DecimalDigit
import BracketCue.Text.Lowercase
import BracketCue.Text.Numeral

/-!
# Key scripts

A script such as `left(6), Right(6) enter` names keys to press one after the other. Words are
separated by white space and commas; a number in parentheses repeats the key. Capitals are read as
small letters. The first word that cannot be read is the error of the script.
-/
namespace BracketCue.Script

/-- The largest number of times that one word may repeat its key. -/
def repeatLimit : Nat := 10000

inductive Error
  | unknownKey (word : Text)
  | badCount (word : Text) (cause : Text.NumeralError)
  | countTooLarge (word : Text)
  deriving DecidableEq, Repr

/-- What is wrong, in words, the word in its own spelling. -/
def Error.message : Error → Text
  | .unknownKey word => "unknown key: ".toList ++ word
  | .badCount word .invalidDigit =>
    "bad count in ".toList ++ word ++ ": invalid digit found in string".toList
  | .badCount word .tooLarge =>
    "bad count in ".toList ++ word ++ ": number too large to fit in target type".toList
  | .countTooLarge word =>
    "count too large in ".toList ++ word ++ ", max is ".toList ++ Text.decimal repeatLimit

/-- Whether a character stands between words. -/
def separates (c : Char) : Bool :=
  Text.isBlank c || c == ','

/-- The digits of an opened parenthesis that closes at the end of the word. Digits of every script
have the form of a count; which of them can be read is decided afterwards. -/
def countOf? (inner : Text) : Option Text :=
  let digits := inner.dropLast
  if inner.getLast? = some ')' ∧ digits ≠ [] ∧ digits.all Text.isDecimalDigit then some digits
  else none

/-- The key of a word in small letters and, if the word has parentheses, the digits between them. -/
def shape? (word : Text) : Option (Key × Option Text) := do
  let key ← Key.ofName? (word.takeWhile (· ≠ '('))
  match word.dropWhile (· ≠ '(') with
  | [] => return (key, none)
  | _ :: inner => return (key, some (← countOf? inner))

/-- The presses that a word stands for. -/
def readWord (word : Text) : Except Error (List Key) :=
  match shape? (Text.lowercase word) with
  | none => .error (.unknownKey word)
  | some (key, none) => .ok [key]
  | some (key, some digits) =>
    match Text.readCount digits with
    | .error cause => .error (.badCount word cause)
    | .ok count =>
      if count ≤ repeatLimit then .ok (List.replicate count key) else .error (.countTooLarge word)

/-- The presses of words in order, or the error of the first word that has one. -/
def readWords : List Text → Except Error (List Key)
  | [] => .ok []
  | word :: rest =>
    match readWord word with
    | .error e => .error e
    | .ok keys =>
      match readWords rest with
      | .error e => .error e
      | .ok more => .ok (keys ++ more)

/-- The presses of a script, in order. Mirrors `parse_keys`. -/
def parse (script : Text) : Except Error (List Key) :=
  readWords (Text.words separates script)

end BracketCue.Script
