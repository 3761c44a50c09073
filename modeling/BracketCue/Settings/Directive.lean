import BracketCue.Settings.Basic
import BracketCue.Text.Blank
import BracketCue.Text.Pattern
import BracketCue.Text.Quoted

/-!
# Directives

A settings file is read line by line. A line that is empty or a comment is ignored; every other
line has to be a directive, three words `set NAME VALUE`. A line that is not one changes nothing
and is reported with its number. The last directive for a setting wins.
-/
namespace BracketCue

/-- One setting and the value it is given. -/
inductive Directive
  | enabled (on : Bool)
  | activeBracket (choice : ActiveBracket)
  | paint (paint : Paint)
  | moveStyle (style : MoveStyle)
  | bold (on : Bool)
  | background (code : Nat)
  deriving DecidableEq, Repr

def Settings.set (s : Settings) : Directive → Settings
  | .enabled on => { s with enabled := on }
  | .activeBracket choice => { s with activeBracket := choice }
  | .paint paint => { s with paint := paint }
  | .moveStyle style => { s with moveStyle := style }
  | .bold on => { s with style := { s.style with bold := on } }
  | .background code => { s with style := { s.style with background := code } }

namespace Directive

inductive Error
  | notSet (line : Text)
  | unknownVariable (name : Text)
  | badValue (cause : ValueError)
  deriving DecidableEq, Repr

def Error.message : Error → Text
  | .notSet line => "not a set directive: ".toList ++ Text.quoted line
  | .unknownVariable name => "unknown variable: ".toList ++ name
  | .badValue cause => cause.message

/-- The directive that a value makes, or the error of the value. -/
def ofValue {α : Type} (make : α → Directive) : Except ValueError α → Except Error Directive
  | .ok value => .ok (make value)
  | .error cause => .error (.badValue cause)

/-- The directive that gives the named setting a value. -/
def ofNameValue (name value : Text) : Except Error Directive :=
  if name = "highlight".toList then ofValue .enabled (readSwitch value)
  else if name = "active-bracket".toList then ofValue .activeBracket (ActiveBracket.ofName value)
  else if name = "paint".toList then ofValue .paint (Paint.ofName value)
  else if name = "move-style".toList then ofValue .moveStyle (MoveStyle.ofName value)
  else if name = "highlight-bold".toList then ofValue .bold (readSwitch value)
  else if name = "highlight-background".toList then ofValue .background (readColor value)
  else .error (.unknownVariable name)

/-- Whether a character can stand in the name of a setting. -/
def isNameChar (c : Char) : Bool :=
  c.isLower || c == '-'

/-- The form of a directive: the word `set`, a name and a value, and white space between them.
Mirrors `RE_SET`. -/
def form : Text.Pattern :=
  [.run Text.isBlank 0 false, .exactly "set".toList, .run Text.isBlank 1 false,
   .run isNameChar 1 true, .run Text.isBlank 1 false, .run (fun c => !Text.isBlank c) 1 true,
   .run Text.isBlank 0 false]

end Directive

/-- What a line of a settings file is. -/
inductive SettingsLine
  | ignored
  | directive (d : Directive)
  | rejected (cause : Directive.Error)
  deriving DecidableEq, Repr

namespace SettingsLine

/-- Reads a line. White space around it, a carriage return at its end included, has no meaning.
Mirrors `handle_line`. -/
def read (line : Text) : SettingsLine :=
  let line := line.trim Text.isBlank
  if line = [] ∨ line.head? = some '#' then .ignored
  else
    match Directive.form.match? line with
    | some [name, value] =>
      match Directive.ofNameValue name value with
      | .ok d => .directive d
      | .error cause => .rejected cause
    | _ => .rejected (.notSet line)

def directive? : SettingsLine → Option Directive
  | .directive d => some d
  | _ => none

def rejection? : SettingsLine → Option Directive.Error
  | .rejected cause => some cause
  | _ => none

end SettingsLine

namespace Settings

def readLines (file : Text) : List SettingsLine :=
  file.lines.map SettingsLine.read

/-- The settings after a file. Mirrors `load_text`. -/
def withFile (s : Settings) (file : Text) : Settings :=
  ((readLines file).filterMap SettingsLine.directive?).foldl set s

/-- The rejected lines of a file by number, counted from one, in order. -/
def rejections (file : Text) : List (Nat × Directive.Error) :=
  ((readLines file).zipIdx 1).filterMap fun (line, number) =>
    line.rejection?.map (number, ·)

end Settings
end BracketCue
