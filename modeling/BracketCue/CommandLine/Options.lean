import BracketCue.Settings.Basic
import BracketCue.Text.Utf8

/-!
# Options

The arguments of the command: one line of text to edit, and options before or after it.

An option with a value takes it after an equals sign, from the next argument, or, for an option
named by one letter, from the rest of its own argument. A value that is an argument of its own does
not begin with a hyphen, unless it is a single hyphen. After `--` every argument is the line. Each
option is given at most once.

Instead of a line, a page about the command can be asked for. What stands before this is read as
ever, and what is wrong with it comes first; what follows is not looked at.
-/
namespace BracketCue.CommandLine

inductive Format
  /-- A line for each key with its operations by name. -/
  | ops
  /-- Escape sequences with the escape character made visible. -/
  | escaped
  /-- The prompt, the line and the escape sequences as a terminal gets them. -/
  | raw
  deriving DecidableEq, Repr

/-- What the command is asked to do. -/
structure Options where
  line : Text
  keys : Text
  prompt : Text
  width : Option Nat
  noHighlight : Bool
  paint : Option Paint
  moveStyle : Option MoveStyle
  activeBracket : Option ActiveBracket
  format : Format
  settingsFile : Option Text
  deriving DecidableEq, Repr

inductive Page
  /-- How it is used, in short. -/
  | summary
  | help
  | version
  deriving DecidableEq, Repr

inductive Request
  /-- To press keys on a line. -/
  | replay (options : Options)
  | page (page : Page)
  deriving DecidableEq, Repr

/-- An argument as it is given. -/
inductive Word
  | text (text : Text)
  /-- Bytes that are no text, and the text in front of the first that belongs to no character. -/
  | garbled (front : Text)
  deriving DecidableEq, Repr

def Word.ofBytes (bytes : ByteArray) : Word :=
  match Text.ofUtf8? bytes with
  | some whole => .text whole
  | none =>
    let front := (Text.pieces bytes).takeWhile fun
      | .char _ => true
      | .stray _ => false
    .garbled (front.filterMap fun
      | .char c => some c
      | .stray _ => none)

/-- An option that takes a value. -/
inductive Name
  | keys
  | prompt
  | width
  | paint
  | moveStyle
  | activeBracket
  | format
  | settingsFile
  deriving DecidableEq, Repr

namespace Name

def all : List Name :=
  [.keys, .prompt, .width, .paint, .moveStyle, .activeBracket, .format, .settingsFile]

/-- The name of an option after two hyphens. -/
def word : Name → Text
  | .keys => "keys".toList
  | .prompt => "prompt".toList
  | .width => "width".toList
  | .paint => "paint".toList
  | .moveStyle => "move-style".toList
  | .activeBracket => "active-bracket".toList
  | .format => "format".toList
  | .settingsFile => "rcfile".toList

/-- The letter of an option after one hyphen, if it has one. -/
def letter? : Name → Option Char
  | .keys => some 'k'
  | .prompt => some 'p'
  | .width => some 'w'
  | .format => some 'f'
  | _ => none

/-- The option of a name, which is never shortened. -/
def ofWord? (text : Text) : Option Name :=
  all.find? fun name => name.word = text

def ofLetter? (letter : Char) : Option Name :=
  all.find? fun name => name.letter? = some letter

end Name

def Page.ofWord? (text : Text) : Option Page :=
  [("help".toList, .help), ("version".toList, .version)].lookup text

def Page.ofLetter? (letter : Char) : Option Page :=
  [('h', .summary), ('V', .version)].lookup letter

inductive UsageError
  | unknownOption (argument : Text)
  | missingValue (name : Name)
  | unexpectedValue (argument : Text)
  | notText
  | repeated
  | badValue (name : Name) (value : Text)
  | missingLine
  | extraArgument (argument : Text)
  deriving DecidableEq, Repr

def UsageError.message : UsageError → Text
  | .unknownOption argument => "unknown option ".toList ++ argument
  | .missingValue name => "no value for ".toList ++ "--".toList ++ name.word
  | .unexpectedValue argument => "no value is taken in ".toList ++ argument
  | .notText => "an argument is no text in UTF-8".toList
  | .repeated => "an option is given twice".toList
  | .badValue name value =>
    "bad value for --".toList ++ name.word ++ ": ".toList ++ value
  | .missingLine => "no line is given".toList
  | .extraArgument argument => "one argument too many: ".toList ++ argument

/-- What an argument, or an option with its value, says. -/
inductive Item
  | line (text : Text)
  | option (name : Name) (value : Text)
  | noHighlight
  | page (page : Page)
  deriving DecidableEq, Repr

/-- An argument by itself. -/
inductive Argument
  /-- It says all that it has to say. -/
  | whole (item : Item)
  /-- It names an option whose value is the next argument. -/
  | needsValue (name : Name)
  | refused (cause : UsageError)
  deriving DecidableEq, Repr

/-- The argument of a name that takes no value. -/
def readFlag (argument : Text) (item : Item) (value? : Option Text) : Argument :=
  if value?.isNone then .whole item else .refused (.unexpectedValue argument)

/-- An argument after its two hyphens. -/
def readLong (argument body : Text) : Argument :=
  let name := body.takeWhile (· ≠ '=')
  let value? := (body.dropWhile (· ≠ '=')).tail?
  if name = "no-character-highlight".toList then readFlag argument .noHighlight value?
  else
    match Page.ofWord? name, Name.ofWord? name, value? with
    | some page, _, _ => readFlag argument (.page page) value?
    | none, none, _ => .refused (.unknownOption argument)
    | none, some name, none => .needsValue name
    | none, some name, some value => .whole (.option name value)

/-- An argument after its one hyphen and the letter that follows it. A page does not wait for the
rest of its argument. -/
def readShort (argument : Text) (letter : Char) (attached : Text) : Argument :=
  match Page.ofLetter? letter, Name.ofLetter? letter, attached with
  | some page, _, _ => .whole (.page page)
  | none, none, _ => .refused (.unknownOption argument)
  | none, some name, [] => .needsValue name
  | none, some name, '=' :: value => .whole (.option name value)
  | none, some name, value => .whole (.option name value)

/-- Reads an argument that is not `--`. One that is no text can only ask for a page, in front of
where it is garbled. -/
def readArgument : Word → Argument
  | .text ('-' :: '-' :: body) => readLong ('-' :: '-' :: body) body
  | .text ('-' :: letter :: attached) => readShort ('-' :: letter :: attached) letter attached
  | .text text => .whole (.line text)
  | .garbled ('-' :: letter :: _) =>
    match Page.ofLetter? letter with
    | some page => .whole (.page page)
    | none => .refused .notText
  | .garbled _ => .refused .notText

/-- The value that an argument is for the option before it. -/
def readValue (name : Name) : Word → Except UsageError Text
  | .text text =>
    if text.head? ≠ some '-' ∨ text = ['-'] then .ok text else .error (.missingValue name)
  | .garbled _ => .error .notText

/-- The line that an argument is after `--`. -/
def readLine : Word → Except UsageError Item
  | .text text => .ok (.line text)
  | .garbled _ => .error .notText

/-- The items of the arguments, in order, up to a page that is asked for. -/
def readItems : List Word → Except UsageError (List Item)
  | [] => .ok []
  | argument :: rest =>
    if argument = .text ['-', '-'] then rest.mapM readLine
    else
      match readArgument argument, rest with
      | .refused cause, _ => .error cause
      | .whole (.page page), _ => .ok [.page page]
      | .whole item, rest => (readItems rest).map (item :: ·)
      | .needsValue name, [] => .error (.missingValue name)
      | .needsValue name, value :: rest => do
        let value ← readValue name value
        (readItems rest).map (.option name value :: ·)

def Item.line? : Item → Option Text
  | .line text => some text
  | _ => none

def Item.page? : Item → Option Page
  | .page p => some p
  | _ => none

def Item.value? (name : Name) : Item → Option Text
  | .option name' value => if name' = name then some value else none
  | _ => none

/-- The only one of the values, if there is any. -/
def atMostOne {α : Type} : List α → Except UsageError (Option α)
  | [] => .ok none
  | [value] => .ok (some value)
  | _ => .error .repeated

/-- The value of an option as it is written. -/
def givenText (items : List Item) (name : Name) : Except UsageError (Option Text) :=
  atMostOne (items.filterMap (Item.value? name))

/-- The value of an option, read. -/
def given {α : Type} (items : List Item) (name : Name) (read? : Text → Option α) :
    Except UsageError (Option α) := do
  match ← givenText items name with
  | none => return none
  | some value =>
    match read? value with
    | none => throw (.badValue name value)
    | some value => return some value

/-- A number of columns: digits, with or without a plus sign in front. -/
def readWidth? (value : Text) : Option Nat :=
  let digits := if value.head? = some '+' then value.tail else value
  if digits = [] then none else (Text.readCount digits).toOption

def Format.ofName? (name : Text) : Option Format :=
  [("ops".toList, .ops), ("escaped".toList, .escaped), ("raw".toList, .raw)].lookup name

/-- The request that items make together. Whatever else is missing, a page needs no line. -/
def ofItems (items : List Item) : Except UsageError Request := do
  let keys ← givenText items .keys
  let prompt ← givenText items .prompt
  let width ← given items .width readWidth?
  let paint ← given items .paint fun value => (Paint.ofName value).toOption
  let moveStyle ← given items .moveStyle fun value => (MoveStyle.ofName value).toOption
  let activeBracket ←
    given items .activeBracket fun value => (ActiveBracket.ofName value).toOption
  let format ← given items .format Format.ofName?
  let settingsFile ← givenText items .settingsFile
  let flag ← atMostOne (items.filter (· = .noHighlight))
  match items.filterMap Item.line?, items.findSome? Item.page? with
  | _ :: extra :: _, _ => throw (.extraArgument extra)
  | _, some page => return .page page
  | [], none => throw .missingLine
  | [line], none =>
    return .replay {
      line := line
      keys := keys.getD "enter".toList
      prompt := prompt.getD "$ ".toList
      width := width
      noHighlight := flag.isSome
      paint := paint
      moveStyle := moveStyle
      activeBracket := activeBracket
      format := format.getD .ops
      settingsFile := settingsFile }

/-- What arguments ask for, or why they are refused. -/
def Request.read (arguments : List Word) : Except UsageError Request := do
  ofItems (← readItems arguments)

/-- The settings as the options change them. An option can switch highlighting off, never on. -/
def Options.override (o : Options) (s : Settings) : Settings :=
  { s with
    enabled := s.enabled && !o.noHighlight
    paint := o.paint.getD s.paint
    moveStyle := o.moveStyle.getD s.moveStyle
    activeBracket := o.activeBracket.getD s.activeBracket }

end BracketCue.CommandLine
