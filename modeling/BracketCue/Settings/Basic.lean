import BracketCue.Terminal.Painter
import BracketCue.Terminal.Style
import BracketCue.Bracket.Matching

/-!
# Settings

The settings of a run, and the spellings of the values that they take.
-/
namespace BracketCue

/-- The settings of a run. Mirrors `Config`. -/
structure Settings where
  enabled : Bool
  activeBracket : ActiveBracket
  paint : Paint
  moveStyle : MoveStyle
  style : Terminal.Style
  deriving DecidableEq, Repr

/-- The settings of a run that sets nothing. -/
def Settings.standard : Settings :=
  ⟨true, .underCursor, .both, .relative, .standard⟩

/-- A spelling that is no value of a setting. -/
inductive ValueError
  | boolean (value : Text)
  | activeBracket (value : Text)
  | paint (value : Text)
  | moveStyle (value : Text)
  | color (value : Text)
  deriving DecidableEq, Repr

def ValueError.message : ValueError → Text
  | .boolean value => "invalid boolean: ".toList ++ value
  | .activeBracket value => "invalid active bracket policy: ".toList ++ value
  | .paint value => "invalid paint mode: ".toList ++ value
  | .moveStyle value => "invalid move style: ".toList ++ value
  | .color value => "unknown color: ".toList ++ value

/-- The spelled value if there is one, else the error. -/
def orValueError {α : Type} (value? : Option α) (e : ValueError) : Except ValueError α :=
  match value? with
  | none => .error e
  | some value => .ok value

/-- A truth value: `1` or `on`, `0` or `off`. The words may be of either case. Mirrors
`parse_bool`. -/
def readSwitch? (value : Text) : Option Bool :=
  [("0".toList, false), ("1".toList, true), ("off".toList, false), ("on".toList, true)].lookup
    (Text.lowerAscii value)

/-- A truth value, or the error that names the spelling. Mirrors `to_bool`. -/
def readSwitch (value : Text) : Except ValueError Bool :=
  orValueError (readSwitch? value) (.boolean value)

/-- The code of a background color by name. -/
def readColor (value : Text) : Except ValueError Nat :=
  orValueError (Terminal.Style.colorCode? value) (.color value)

/-- The choice of the active bracket by name. Mirrors `parse_active`. -/
def ActiveBracket.ofName (value : Text) : Except ValueError ActiveBracket :=
  orValueError
    ([("under-cursor".toList, .underCursor), ("left-then-under".toList, .leftThenUnder)].lookup
      value)
    (.activeBracket value)

/-- The paint mode of a name. Mirrors `parse_paint`. -/
def Paint.ofName (value : Text) : Except ValueError Paint :=
  orValueError ([("both".toList, .both), ("partner".toList, .partner)].lookup value)
    (.paint value)

/-- The move style of a name. Mirrors `parse_move_style`. -/
def MoveStyle.ofName (value : Text) : Except ValueError MoveStyle :=
  orValueError ([("relative".toList, .relative), ("line-start".toList, .lineStart)].lookup value)
    (.moveStyle value)

end BracketCue
