import BracketCue.Calendar
import BracketCue.Main
import BracketCue.Highlight.Indicator
import BracketCue.Line.Script
import BracketCue.Line.Editor
import BracketCue.Prompt
import BracketCue.Settings.Directive
import BracketCue.Terminal.Spelling
import BracketCue.Terminal.Escapes
import BracketCue.Terminal.Painter
import BracketCue.Terminal.Cursor
import BracketCue.Text.Blank
import BracketCue.Text.DecimalDigit
import BracketCue.Text.Quoted
import BracketCue.Proofs.Bracket.Balance
import BracketCue.Proofs.Bracket.OnePass
import BracketCue.Proofs.Bracket.Nesting
import BracketCue.Proofs.Highlight.Painted
import BracketCue.Proofs.Highlight.History
import BracketCue.Proofs.Highlight.Looks
import BracketCue.Proofs.Screen.Fit
import BracketCue.Proofs.Terminal.Writes
import BracketCue.Proofs.Terminal.Display
import BracketCue.Proofs.Line.Run
import BracketCue.Proofs.Line.Repaint
import BracketCue.Proofs.Line.OnScreen
import BracketCue.Proofs.Terminal.Frame
import BracketCue.Proofs.Line.InFrame
import BracketCue.Proofs.Terminal.Emulator
import BracketCue.Proofs.Terminal.Obeyed
import BracketCue.Proofs.Terminal.Weight
import BracketCue.Proofs.Line.Geometry
import BracketCue.Proofs.Line.Echo
import BracketCue.Proofs.Line.SwitchedOff
import BracketCue.Proofs.Line.BracketsOnly
import BracketCue.Proofs.Settings.Grammar
import BracketCue.Proofs.Settings.LastSay
import BracketCue.Proofs.Terminal.Legible
import BracketCue.Proofs.CommandLine.Precedence
import BracketCue.Proofs.Terminal.OneLine
import BracketCue.Proofs.CommandLine.Formats
import BracketCue.Proofs.CommandLine.Course
import BracketCue.Proofs.Line.Effect
import BracketCue.Proofs.Settings.File
import BracketCue.Proofs.CommandLine.Refusals
import BracketCue.Proofs.CommandLine.Verdict
import BracketCue.Proofs.CommandLine.Journal
import BracketCue.Proofs.Text.Words
import BracketCue.Proofs.Text.Lowercase
import BracketCue.Proofs.Text.Numeral
import BracketCue.Proofs.Line.Grammar
import BracketCue.Proofs.Line.FirstError
import BracketCue.Proofs.Terminal.Form
import BracketCue.Proofs.Terminal.Readable
import BracketCue.Proofs.Prompt.Parts
import BracketCue.Proofs.Prompt.Items
import BracketCue.Proofs.Bracket.Footprint
import BracketCue.Proofs.Machine.Word
import BracketCue.Proofs.Machine.Search
import BracketCue.Proofs.Machine.Travel
import BracketCue.Proofs.Calendar.Gregorian
import BracketCue.Proofs.Calendar.Clock
import BracketCue.Proofs.Text.Padded
import BracketCue.Proofs.Calendar.Printed
