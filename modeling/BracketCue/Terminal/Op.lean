/-!
# Terminal operations

What the highlighter asks of a terminal, apart from how it is written.
-/
namespace BracketCue.Terminal

/-- One request to the terminal. Mirrors `TerminalOp`. -/
inductive Op
  | left (count : Nat)
  | right (count : Nat)
  | up (count : Nat)
  | down (count : Nat)
  /-- Remember where the cursor is. -/
  | save
  /-- Go back to where the cursor was remembered. -/
  | restore
  /-- Write a character with the highlight on. -/
  | highlight (c : Char)
  /-- Write a character with the highlight off. -/
  | unhighlight (c : Char)
  deriving DecidableEq, Repr

/-- Whether an operation writes a character. Mirrors `is_attr`. -/
def Op.isEdit : Op → Bool
  | .highlight _ | .unhighlight _ => true
  | _ => false

def editCount (ops : List Op) : Nat :=
  ops.countP Op.isEdit

end BracketCue.Terminal
