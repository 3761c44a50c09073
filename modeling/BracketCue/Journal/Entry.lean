import BracketCue.Journal.Failure
import BracketCue.Journal.Record
import BracketCue.Line.Editor
import BracketCue.Settings.Directive

/-!
# Journal entries

What is worth a line in the journal, and how the lines are framed: each message is stamped with
the time and the process, and ends with a newline.
-/
namespace BracketCue.Journal

inductive HomeError
  /-- The environment does not name it. -/
  | missing
  /-- The environment names it in bytes that are no text. -/
  | notText (bytes : ByteArray)
  deriving Repr

instance : DecidableEq HomeError
  | .missing, .missing => isTrue rfl
  | .missing, .notText _ | .notText _, .missing => isFalse nofun
  | .notText a, .notText b =>
    decidable_of_iff (a.data = b.data)
      ⟨fun h => congrArg HomeError.notText (ByteArray.ext h), fun h => by cases h; rfl⟩

def HomeError.message : HomeError → Text
  | .missing => "environment variable not found".toList
  | .notText bytes =>
    "environment variable was not valid unicode: ".toList ++ Text.quotedBytes bytes

inductive Entry
  | noHome (cause : HomeError)
  /-- A line of the settings file was rejected. -/
  | rejected (line : Nat) (cause : Directive.Error)
  /-- The output is no terminal, so its width is unknown. -/
  | noTerminal
  /-- The keys of a script are about to be pressed on a line. -/
  | started (line script : Text) (width : Nat) (settings : Settings)
  /-- The cursor has moved and the highlight has changed. -/
  | moved (before after : Nat) (change : Change)
  /-- The result could not be written. -/
  | writeFailed (cause : Failure)
  deriving DecidableEq, Repr

/-- An event, in words. User text is quoted, and so cannot break the line. -/
def Entry.message : Entry → Text
  | .noHome cause => "bracketlight: env HOME error: ".toList ++ cause.message
  | .rejected line cause =>
    "rcfile line ".toList ++ Text.decimal line ++ ": ".toList ++ cause.message
  | .noTerminal => "term_size: stdout is not a TTY".toList
  | .started line script width settings =>
    "replay ".toList ++ Text.quoted line ++ " keys=".toList ++ Text.quoted script ++
      " width=".toList ++ Text.decimal width ++ " config=".toList ++ settings.recordText
  | .moved before after change =>
    "cursor ".toList ++ Text.decimal before ++ " -> ".toList ++ Text.decimal after ++
      ": undo ".toList ++ optionText (change.erased.map (·.recordText)) ++
      " apply ".toList ++ optionText (change.drawn.map (·.recordText))
  | .writeFailed cause => "write error: ".toList ++ cause.describe

/-- The entry for a key press, if the highlight has changed. -/
def Entry.ofPress? (p : Press) : Option Entry :=
  if p.change.isEmpty then none else some (.moved p.before p.after p.change)

/-- When and by which process an entry is written. -/
structure Stamp where
  time : Text
  process : Text
  deriving DecidableEq, Repr

/-- A message as it stands in the journal. One that ends with a newline gets no second one. -/
def frame (stamp : Stamp) (message : Text) : Text :=
  '[' :: stamp.time ++ "][".toList ++ stamp.process ++ "] ".toList ++ message ++
    if message.getLast? = some '\n' then [] else ['\n']

/-- The text of a journal to which messages were added in order. -/
def render (stamp : Stamp) (messages : List Text) : Text :=
  messages.flatMap (frame stamp)

end BracketCue.Journal
