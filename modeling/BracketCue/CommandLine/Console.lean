import BracketCue.CommandLine.Plan

/-!
# Consoles

The streams that a plan runs on, each of which may fail, and what a run leaves on them.

A stream fails if it refuses everything that is written to it and the command is told why. (What is
written to a stream that is closed from the start is lost without a word, and such a stream counts
as one that works. A write that is interrupted is made again.)

A line that cannot be written to the error output, or to the journal, is replaced by a line on the
standard output. If the standard output refuses such a line, the run is aborted. If it refuses a
part of the result, the journal says so and the run ends with status 1.
-/
namespace BracketCue.CommandLine

/-- Where the journal goes. -/
inductive JournalTarget
  /-- No journal is kept. -/
  | off
  /-- A file that can be written. -/
  | file
  /-- A file that cannot be opened. -/
  | unopenable
  /-- A file that opens but refuses what is written. -/
  | unwritable
  deriving DecidableEq, Repr

/-- The streams: why an output fails, if it does, where the journal goes, and which terminal the
standard output is. -/
structure Console where
  output : Option Failure
  error : Option Failure
  journal : JournalTarget
  window : Window
  deriving DecidableEq, Repr

/-- What a run has left on the streams, and its exit status if it has ended early. -/
structure Trace where
  output : Text
  error : Text
  journal : List Journal.Entry
  ended : Option Nat
  deriving DecidableEq, Repr

def aborted : Nat := 101

/-- What is said on the error output when a run is aborted. -/
def abortMessage (cause : Failure) : Text :=
  "failed printing to stdout: ".toList ++ cause.brief

/-- The line that replaces an entry of a journal that cannot be opened. -/
def unopenableRemark : Text :=
  "tlog: open file error".toList

/-- The line that replaces an entry that the journal refuses. -/
def unwritableRemark : Text :=
  "tlog: write_all error".toList

/-- The line that replaces a complaint that the error output refuses. -/
def complaintRemark (cause : Failure) : Text :=
  "write to stderr failed: ".toList ++ cause.describe

namespace Trace

def empty : Trace := ⟨[], [], [], none⟩

/-- One trace after another. What comes after the end of a run is lost. -/
def append (a b : Trace) : Trace :=
  match a.ended with
  | some _ => a
  | none => ⟨a.output ++ b.output, a.error ++ b.error, a.journal ++ b.journal, b.ended⟩

end Trace

namespace Console

/-- A line on the standard output that is no part of the result. -/
def remark (c : Console) (line : Text) : Trace :=
  match c.output with
  | none => { Trace.empty with output := line ++ ['\n'] }
  | some cause =>
    { Trace.empty with
      error := if c.error = none then abortMessage cause ++ ['\n'] else []
      ended := some aborted }

def note (c : Console) (entry : Journal.Entry) : Trace :=
  match c.journal with
  | .off => .empty
  | .file => { Trace.empty with journal := [entry] }
  | .unopenable => c.remark unopenableRemark
  | .unwritable => c.remark unwritableRemark

/-- A complaint on the error output. Mirrors `println_stderr`. -/
def complain (c : Console) (complaint : Complaint) : Trace :=
  match c.error with
  | none => { Trace.empty with error := complaint.message ++ ['\n'] }
  | some cause => c.remark (complaintRemark cause)

/-- A part of the result. An empty part is never refused. -/
def display (c : Console) (text : Text) : Trace :=
  match c.output with
  | none => { Trace.empty with output := text }
  | some cause =>
    if text = [] then .empty
    else (c.note (.writeFailed cause)).append { Trace.empty with ended := some 1 }

def perform (c : Console) : Step → Trace
  | .note entry => c.note entry
  | .complain complaint => c.complain complaint
  | .display text => c.display text

/-- The steps in order, until one ends the run. -/
def performAll (c : Console) : List Step → Trace
  | [] => .empty
  | step :: rest => (c.perform step).append (c.performAll rest)

end Console

def usageStatus : Nat := 2

structure Outcome where
  status : Nat
  output : Text
  error : Text
  journal : List Journal.Entry
  deriving DecidableEq, Repr

def Console.outcome (c : Console) (p : Plan) : Outcome :=
  let trace := c.performAll p.steps
  ⟨trace.ended.getD p.status, trace.output, trace.error, trace.journal⟩

/-- A page is shown as far as the standard output takes it, and nobody minds if it does not. -/
def Console.showPage (c : Console) (text : Text) : Outcome :=
  ⟨0, if c.output = none then text else [], [], []⟩

/-- Where the command runs: the files there are, the place of the directory it works in, and the
bytes in which the environment names the home directory, if it does. -/
structure Site where
  files : FileTree
  working : List Text
  home : Option ByteArray

/-- The path of the home directory. Mirrors `get_user_home`. -/
def Site.homePath (site : Site) : Except Journal.HomeError Text :=
  match site.home with
  | none => .error .missing
  | some bytes =>
    match Text.ofUtf8? bytes with
    | none => .error (.notText bytes)
    | some path => .ok path

/-- What reading a settings file gives at a site, `none` if there is none to read. -/
def Site.read (site : Site) : SettingsSource → Option Reading
  | .named path => some (site.files.read site.working path)
  | .standard path => site.files.readIfPresent site.working path

def Options.planAt (o : Options) (site : Site) (window : Window) : Plan :=
  plan o window site.homePath (site.read (o.settingsSource site.homePath))

/-- Runs the command with its arguments, or says why they are refused. `pages` has the pages that
can be asked for. -/
def run (c : Console) (site : Site) (pages : Page → Text) (arguments : List Word) :
    Except UsageError Outcome := do
  match ← Request.read arguments with
  | .page page => return c.showPage (pages page)
  | .replay o => return c.outcome (o.planAt site c.window)

end BracketCue.CommandLine
