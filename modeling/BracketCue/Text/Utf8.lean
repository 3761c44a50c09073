import BracketCue.Text.Basic

/-!
# Bytes that may be text

Bytes that come from outside need not be text in UTF-8. Those that are not are still read from the
left: where a character begins it is taken, and a byte with which none begins is left over.
-/
namespace BracketCue.Text

instance : Repr ByteArray :=
  ⟨fun bytes => reprPrec bytes.data⟩

def ofUtf8? (bytes : ByteArray) : Option Text :=
  (String.fromUTF8? bytes).map String.toList

/-- A character, or a byte that belongs to none. -/
inductive Piece
  | char (c : Char)
  | stray (byte : UInt8)
  deriving DecidableEq, Repr

/-- The character that bytes begin with. No character takes more than four. -/
def firstChar? (bytes : List UInt8) : Option Char :=
  ByteArray.utf8DecodeChar? ⟨(bytes.take 4).toArray⟩ 0

/-- The pieces of bytes of which the first `taken` belong to a character before them. -/
def piecesAfter (taken : Nat) : List UInt8 → List Piece
  | [] => []
  | byte :: rest =>
    match taken with
    | more + 1 => piecesAfter more rest
    | 0 =>
      match firstChar? (byte :: rest) with
      | some c => .char c :: piecesAfter (c.utf8Size - 1) rest
      | none => .stray byte :: piecesAfter 0 rest

/-- The characters of bytes and what is left over between them, in order. -/
def pieces (bytes : ByteArray) : List Piece :=
  piecesAfter 0 bytes.data.toList

end BracketCue.Text
