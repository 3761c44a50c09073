import BracketCue.CommandLine.Files
import BracketCue.CommandLine.Options
import BracketCue.Journal.Entry
import BracketCue.Line.Script
import BracketCue.Prompt
import BracketCue.Terminal.Spelling
import BracketCue.Terminal.Escapes

/-!
# Plans

What the command does, as a list of steps: notes for the journal, complaints for the error output,
and texts to show. The plan depends on the options, on the terminal, and on what reading the
settings file gave; how the steps fare on real streams is not its concern.

The settings are read first, then the width is checked, then the keys; only if all is well are the
keys pressed.
-/
namespace BracketCue.CommandLine

inductive Complaint
  | cannotOpen (cause : Failure)
  | cannotRead (cause : Failure)
  | zeroWidth
  | badScript (cause : Script.Error)
  deriving DecidableEq, Repr

def Complaint.message : Complaint → Text
  | .cannotOpen cause => "bracketlight: open rcfile err: ".toList ++ cause.describe
  | .cannotRead cause => "bracketlight: read_to_string error: ".toList ++ cause.describe
  | .zeroWidth => "bracketlight: width must be at least 1".toList
  | .badScript cause => "bracketlight: ".toList ++ cause.message

inductive Step
  | note (entry : Journal.Entry)
  | complain (complaint : Complaint)
  | display (text : Text)
  deriving DecidableEq, Repr

/-- What the command does, and its exit status if all of the result can be written. -/
structure Plan where
  steps : List Step
  status : Nat
  deriving DecidableEq, Repr

/-- The settings file to read. -/
inductive SettingsSource
  /-- A file that was asked for; it is an error if it cannot be read. -/
  | named (path : Text)
  /-- The file in the home directory, which need not be there. -/
  | standard (path : Text)
  deriving DecidableEq, Repr

/-- The settings file that the options and the home directory give. A home directory that is not
known counts as the root. Mirrors `get_rc_file`. -/
def Options.settingsSource (o : Options) (home : Except Journal.HomeError Text) : SettingsSource :=
  match o.settingsFile with
  | some path => .named path
  | none => .standard (home.toOption.getD [] ++ "/.bracketlightrc".toList)

/-- The settings after reading a settings file. A file that cannot be read changes none. Mirrors
`load_rcfile_from`. -/
def settingsAfter (s : Settings) : Option Reading → Settings
  | some (.contents file) => s.withFile file
  | _ => s

/-- The steps that reading a settings file causes: a complaint if it cannot be read, a note for
each line that is rejected. -/
def settingsSteps : Option Reading → List Step
  | none => []
  | some (.cannotOpen cause) => [.complain (.cannotOpen cause)]
  | some (.cannotRead cause) => [.complain (.cannotRead cause)]
  | some (.contents file) =>
    (Settings.rejections file).map fun (line, cause) => .note (.rejected line cause)

/-- The settings of a run: those of the settings file, as the options change them. Mirrors
`load_config`. -/
def Options.settings (o : Options) (reading : Option Reading) : Settings :=
  o.override (settingsAfter .standard reading)

/-- What the terminal says of its size, if the standard output is one. -/
inductive Window
  /-- The standard output is no terminal. -/
  | noTerminal
  /-- It is one that does not say. -/
  | unknown
  | size (columns rows : Nat)
  deriving DecidableEq, Repr

/-- The columns of a terminal. One that has no columns or no rows cannot mean it. Mirrors
`dimensions`. -/
def Window.columns? : Window → Option Columns
  | .noTerminal | .unknown => none
  | .size columns rows => if h : 0 < columns ∧ 0 < rows then some ⟨columns, h.1⟩ else none

def defaultColumns : Columns := ⟨80, by decide⟩

/-- The columns of the screen: as many as are asked for, else those of the terminal. -/
def Options.columns (o : Options) (window : Window) : Except Fault Columns :=
  match o.width with
  | some count => Columns.ofNat count
  | none => .ok (window.columns?.getD defaultColumns)

def keyLabel : Key → Text
  | .left => "Left".toList
  | .right => "Right".toList
  | .home => "Home".toList
  | .end => "End".toList
  | .enter => "Enter".toList

def pressNotes (p : Press) : List Step :=
  (Journal.Entry.ofPress? p).toList.map .note

def pressLine (key : Key) (p : Press) : Text :=
  keyLabel key ++ ": ".toList ++ Terminal.spell p.ops ++ ['\n']

/-- The result of key presses in a format. -/
def result (o : Options) (style : Terminal.Style) (keys : List Key) (presses : List Press) :
    List Step :=
  let escapes := Terminal.escapes style (Press.allOps presses)
  match o.format with
  | .ops =>
    (keys.zip presses).flatMap fun (key, p) => pressNotes p ++ [.display (pressLine key p)]
  | .escaped =>
    presses.flatMap pressNotes ++ [.display (Terminal.visible escapes ++ ['\n'])]
  | .raw =>
    presses.flatMap pressNotes ++ [.display (o.prompt ++ o.line ++ escapes ++ ['\n'])]

/-- The note about a home directory that is needed and not known. -/
def homeSteps (o : Options) (home : Except Journal.HomeError Text) : List Step :=
  match o.settingsFile, home with
  | none, .error cause => [.note (.noHome cause)]
  | _, _ => []

/-- The note about a terminal that is needed and missing. -/
def widthSteps (o : Options) (window : Window) : List Step :=
  if o.width = none ∧ window = .noTerminal then [.note .noTerminal] else []

/-- The steps and the status once the settings are known. -/
def mainPart (o : Options) (window : Window) (settings : Settings) : Plan :=
  match o.columns window with
  | .error _ => ⟨[.complain .zeroWidth], 1⟩
  | .ok columns =>
    match Script.parse o.keys with
    | .error cause => ⟨widthSteps o window ++ [.complain (.badScript cause)], 1⟩
    | .ok keys =>
      let editor := Editor.start o.line ⟨Prompt.width o.prompt, columns⟩ settings
      let presses := (editor.pressKeys keys).2
      ⟨widthSteps o window ++ .note (.started o.line o.keys columns.count settings) ::
        result o settings.style keys presses, 0⟩

/-- What the command does with its options. `reading` is what the settings file gave, if there is
one to read. Mirrors `main`. -/
def plan (o : Options) (window : Window) (home : Except Journal.HomeError Text)
    (reading : Option Reading) : Plan :=
  let main := mainPart o window (o.settings reading)
  ⟨homeSteps o home ++ settingsSteps reading ++ main.steps, main.status⟩

end BracketCue.CommandLine
