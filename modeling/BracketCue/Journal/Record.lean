import BracketCue.Highlight.Basic
import BracketCue.Settings.Basic
import BracketCue.Text.Quoted

/-!
# Values in journal entries

How highlights and settings are spelled out in the journal: each value by the name of its kind,
with its fields in braces.
-/
namespace BracketCue

/-- A value with its fields in braces. -/
def recordText (name : Text) (fields : List (Text × Text)) : Text :=
  name ++ " \x7b ".toList ++
    Text.join ", ".toList (fields.map fun (field, value) => field ++ ": ".toList ++ value) ++
    " \x7d".toList

/-- A value that may be missing. -/
def optionText : Option Text → Text
  | none => "None".toList
  | some value => "Some(".toList ++ value ++ ")".toList

def switchText (on : Bool) : Text :=
  if on then "true".toList else "false".toList

def Family.recordText : Family → Text
  | .paren => "Paren".toList
  | .square => "Square".toList
  | .curly => "Curly".toList

def Pair.recordText (p : Pair) : Text :=
  BracketCue.recordText "MatchedPair".toList
    [("open".toList, Text.decimal p.opener), ("close".toList, Text.decimal p.closer),
     ("kind".toList, p.family.recordText)]

def Highlight.recordText (h : Highlight) : Text :=
  BracketCue.recordText "Highlight".toList
    [("pair".toList, h.pair.recordText), ("anchor".toList, Text.decimal h.anchor)]

def ActiveBracket.recordText : ActiveBracket → Text
  | .underCursor => "UnderCursor".toList
  | .leftThenUnder => "LeftThenUnder".toList

def Paint.recordText : Paint → Text
  | .both => "BothEnds".toList
  | .partner => "Partner".toList

def MoveStyle.recordText : MoveStyle → Text
  | .relative => "Relative".toList
  | .lineStart => "LineStart".toList

def Terminal.Style.recordText (s : Terminal.Style) : Text :=
  BracketCue.recordText "HighlightStyle".toList
    [("bold".toList, switchText s.bold), ("background".toList, Text.decimal s.background)]

def Settings.recordText (s : Settings) : Text :=
  BracketCue.recordText "Config".toList
    [("enabled".toList, switchText s.enabled), ("active".toList, s.activeBracket.recordText),
     ("paint".toList, s.paint.recordText), ("moves".toList, s.moveStyle.recordText),
     ("style".toList, s.style.recordText)]

end BracketCue
