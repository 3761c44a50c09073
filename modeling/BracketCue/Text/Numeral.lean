import BracketCue.Text.Basic

/-!
# Numerals

Numbers written as text: decimal numerals of natural numbers and integers, hexadecimal numerals
in small letters, numerals padded with zeros, and reading a decimal numeral that must not exceed
a bound.
-/
namespace BracketCue.Text

def decimal (n : Nat) : Text :=
  Nat.toDigits 10 n

/-- The hexadecimal numeral of a number, in small letters and without leading zeros. -/
def hexadecimal (n : Nat) : Text :=
  Nat.toDigits 16 n

/-- A numeral with zeros put in front until it has `width` characters. -/
def zeroPadded (width : Nat) (numeral : Text) : Text :=
  List.replicate (width - numeral.length) '0' ++ numeral

/-- The decimal numeral of an integer in at least `width` characters, the sign counted in and
written before the zeros. -/
def signedDecimal (width : Nat) : Int → Text
  | .ofNat n => zeroPadded width (decimal n)
  | .negSucc n => '-' :: zeroPadded (width - 1) (decimal (n + 1))

/-- The largest count that fits a machine word. -/
def largestCount : Nat := UInt64.size - 1

/-- Why a numeral cannot be read as a count. -/
inductive NumeralError
  /-- A character is not one of the digits 0 to 9. -/
  | invalidDigit
  /-- The digits read so far exceed the largest count. -/
  | tooLarge
  deriving DecidableEq, Repr

/-- Reads decimal digits from the left, `read` being the value of those already read. The
leftmost fault is reported. -/
def readCountFrom (read : Nat) : Text → Except NumeralError Nat
  | [] => .ok read
  | c :: rest =>
    if c.isDigit then
      let next := 10 * read + (c.toNat - '0'.toNat)
      if next ≤ largestCount then readCountFrom next rest else .error .tooLarge
    else .error .invalidDigit

/-- Reads a decimal count. The empty text reads as zero; callers that need a digit ask for one. -/
def readCount (digits : Text) : Except NumeralError Nat :=
  readCountFrom 0 digits

end BracketCue.Text
