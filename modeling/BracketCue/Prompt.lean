import BracketCue.Text.Basic

/-!
# Prompts

How many columns a prompt takes. Two kinds of characters take none: those between the marks
`\x01` and `\x02`, and those of a control sequence, from the escape character and the bracket after
it to the first ASCII letter.
-/
namespace BracketCue.Prompt

/-- Where in a prompt a reader is. -/
inductive Mode
  | shown
  /-- After the mark that begins hidden characters. -/
  | hidden
  /-- Just after an escape character. -/
  | escape
  /-- Inside a control sequence. -/
  | control
  deriving DecidableEq, Repr

/-- The mode after a character that is read as it stands, and the columns it takes. -/
def plainStep (c : Char) : Mode × Nat :=
  if c = '\x01' then (.hidden, 0)
  else if c = '\x02' then (.shown, 0)
  else if c = '\x1b' then (.escape, 0)
  else (.shown, 1)

/-- The mode after a character, and the columns it takes. -/
def step : Mode → Char → Mode × Nat
  | .shown, c => plainStep c
  | .hidden, c => (if c = '\x02' then .shown else .hidden, 0)
  | .escape, c => if c = '[' then (.control, 0) else plainStep c
  | .control, c => (if c.isAlpha then .shown else .control, 0)

/-- The columns of characters that are read from a mode on. -/
def widthFrom (mode : Mode) : Text → Nat
  | [] => 0
  | c :: rest => (step mode c).2 + widthFrom (step mode c).1 rest

/-- The columns of a prompt. Mirrors `prompt_width`. -/
def width (prompt : Text) : Nat :=
  widthFrom .shown prompt

end BracketCue.Prompt
