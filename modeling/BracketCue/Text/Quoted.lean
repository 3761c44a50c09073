import BracketCue.Text.Combining
import BracketCue.Text.Numeral
import BracketCue.Text.Printable
import BracketCue.Text.Utf8

/-!
# Quoted text

A text between quotation marks, in which each character that could be misread is written as an
escape: the mark itself, the backslash, the common control characters by a letter, and every
other combining or unprintable character by its code point in hexadecimal, as in `\u{301}`.

Bytes that may be no text are quoted in the same way, and those that belong to no character are
written in hexadecimal, as in `\xFF`.
-/
namespace BracketCue.Text

/-- The escape of a character by its code point. -/
def codePointEscape (c : Char) : Text :=
  ['\\', 'u', '\x7b'] ++ hexadecimal c.toNat ++ ['\x7d']

/-- A character as it stands between two `mark`s. -/
def quotedChar (mark c : Char) : Text :=
  match c with
  | '\x00' => ['\\', '0']
  | '\t' => ['\\', 't']
  | '\n' => ['\\', 'n']
  | '\r' => ['\\', 'r']
  | '\\' => ['\\', '\\']
  | c =>
    if c = mark then ['\\', c]
    else if isCombining c || !isPrintable c then codePointEscape c
    else [c]

def quotedBy (mark : Char) (text : Text) : Text :=
  mark :: text.flatMap (quotedChar mark) ++ [mark]

def quoted (text : Text) : Text :=
  quotedBy '\x22' text

def quotedSingle (c : Char) : Text :=
  quotedBy '\x27' [c]

/-- The escape of a byte by its two digits in hexadecimal, in capitals. -/
def byteEscape (byte : UInt8) : Text :=
  ['\\', 'x'] ++ [byte.toNat / 16, byte.toNat % 16].map fun digit => (Nat.digitChar digit).toUpper

/-- A piece as it stands in the quotation of bytes. There a single mark is escaped as a double one
is. -/
def quotedPiece : Piece → Text
  | .char c => if c = '\x27' then ['\\', c] else quotedChar '\x22' c
  | .stray byte => byteEscape byte

def quotedBytes (bytes : ByteArray) : Text :=
  '\x22' :: (pieces bytes).flatMap quotedPiece ++ ['\x22']

end BracketCue.Text
