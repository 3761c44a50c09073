import BracketCue.Text.Basic

/-!
# Brackets

A bracket is a family (round, square or curly) and a side (opening or closing), and there is one
character for each. `ofChar?_eq_some_iff` says that reading a character and writing a bracket are
inverse to each other, so a character is a bracket in at most one way.
-/
namespace BracketCue

/-- The families of brackets that balance among themselves. Mirrors `BracketKind`. -/
inductive Family
  | paren
  | square
  | curly
  deriving DecidableEq, Repr

def Family.all : List Family :=
  [.paren, .square, .curly]

/-- The side of the enclosed text on which a bracket stands. Mirrors `Role`. -/
inductive Side
  | opening
  | closing
  deriving DecidableEq, Repr

def Side.flip : Side → Side
  | .opening => .closing
  | .closing => .opening

structure Bracket where
  family : Family
  side : Side
  deriving DecidableEq, Repr

namespace Bracket

/-- The character of a bracket. Mirrors `open_char` and `close_char`. -/
def toChar : Bracket → Char
  | ⟨.paren, .opening⟩ => '('
  | ⟨.paren, .closing⟩ => ')'
  | ⟨.square, .opening⟩ => '['
  | ⟨.square, .closing⟩ => ']'
  | ⟨.curly, .opening⟩ => '\x7b'
  | ⟨.curly, .closing⟩ => '\x7d'

/-- The bracket that a character is, if it is one. Mirrors `classify`. -/
def ofChar? (c : Char) : Option Bracket :=
  if c = '(' then some ⟨.paren, .opening⟩
  else if c = ')' then some ⟨.paren, .closing⟩
  else if c = '[' then some ⟨.square, .opening⟩
  else if c = ']' then some ⟨.square, .closing⟩
  else if c = '\x7b' then some ⟨.curly, .opening⟩
  else if c = '\x7d' then some ⟨.curly, .closing⟩
  else none

/-- The bracket of the same family on the other side. -/
def mate (b : Bracket) : Bracket :=
  ⟨b.family, b.side.flip⟩

theorem ofChar?_toChar (b : Bracket) : ofChar? b.toChar = some b := by
  obtain ⟨family, side⟩ := b
  cases family <;> cases side <;> rfl

theorem ofChar?_eq_some_iff {c : Char} {b : Bracket} : ofChar? c = some b ↔ c = b.toChar := by
  constructor
  · intro h
    unfold ofChar? at h
    repeat' split at h
    all_goals cases h
    all_goals assumption
  · rintro rfl
    exact ofChar?_toChar b

theorem toChar_injective {a b : Bracket} (h : a.toChar = b.toChar) : a = b := by
  have ha := ofChar?_toChar a
  rw [h, ofChar?_toChar b] at ha
  exact (Option.some.inj ha).symm

theorem mate_mate (b : Bracket) : b.mate.mate = b := by
  obtain ⟨family, side⟩ := b
  cases side <;> rfl

theorem mate_ne (b : Bracket) : b.mate ≠ b := by
  obtain ⟨family, side⟩ := b
  cases side <;> simp [mate, Side.flip]

end Bracket
end BracketCue
