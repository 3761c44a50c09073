import BracketCue.Calendar
import BracketCue.CommandLine.Console
import Std.Time

/-!
# The command

Carries the plan of a run out on the real streams and files. What is to be done, and what is said
when a stream fails, is decided in the modules that this one calls.

There is no way from here to ask a terminal for its size, so it counts as one that does not say.
-/
namespace BracketCue.CommandLine

/-- Steps on the real streams, ended early by an exit status. -/
abbrev Shell := ExceptT UInt32 IO

/-- The failure behind an error of the operating system. -/
def failureOf : IO.Error → Failure
  | .alreadyExists _ code message | .interrupted _ code message
  | .noFileOrDirectory _ code message | .invalidArgument _ code message
  | .permissionDenied _ code message | .resourceExhausted _ code message
  | .inappropriateType _ code message | .noSuchThing _ code message
  | .resourceBusy code message | .resourceVanished code message
  | .unsupportedOperation code message | .hardwareFault code message
  | .unsatisfiedConstraints code message | .illegalOperation code message
  | .protocolError code message | .timeExpired code message
  | .otherError code message => .system code.toNat message.toList
  | .unexpectedEof => .system 0 "end of file".toList
  | .userError message => .system 0 message.toList

def writeTo (stream : IO.FS.Stream) (text : Text) : IO (Option Failure) := do
  try
    stream.putStr (String.ofList text)
    stream.flush
    return none
  catch e => return some (failureOf e)

/-- Prints a line that is no part of the result. -/
def remark (line : Text) : Shell Unit := do
  if let some cause ← writeTo (← IO.getStdout) (line ++ ['\n']) then
    let _ ← writeTo (← IO.getStderr) (abortMessage cause ++ ['\n'])
    throw aborted.toUInt32

/-- How many seconds local time is ahead at a time. Where this cannot be told it is not. -/
def localOffset (now : Std.Time.Timestamp) : IO Int := do
  try
    let rules ← Std.Time.Database.defaultGetLocalZoneRules
    return (rules.timezoneAt now).offset.second.val
  catch _ => return 0

/-- The local time and the process number for the journal. -/
def currentStamp : IO Journal.Stamp := do
  let now ← Std.Time.Timestamp.now
  let ahead ← localOffset now
  let status ← try IO.FS.readFile "/proc/self/stat" catch _ => pure "0"
  let milliseconds := now.toMillisecondsSinceUnixEpoch.val
  let time := { Calendar.DateTime.ofUnix (milliseconds / 1000 + ahead) with
    millisecond := (milliseconds % 1000).toNat }
  return ⟨time.render, status.toList.takeWhile Char.isDigit⟩

/-- Adds an entry to the file that the environment names, if it names one. -/
def note (entry : Journal.Entry) : Shell Unit := do
  let path := (← IO.getEnv "BRACKETLIGHT_LOG_FILE").getD ""
  unless path.isEmpty do
    match ← EIO.toBaseIO (IO.FS.Handle.mk path .append) with
    | .error _ => remark unopenableRemark
    | .ok handle =>
      let line := Journal.frame (← currentStamp) entry.message
      if (← writeTo (.ofHandle handle) line).isSome then remark unwritableRemark

def perform : Step → Shell Unit
  | .note entry => note entry
  | .complain complaint => do
    match ← writeTo (← IO.getStderr) (complaint.message ++ ['\n']) with
    | none => return
    | some cause => remark (complaintRemark cause)
  | .display text => do
    match ← writeTo (← IO.getStdout) text with
    | none => return
    | some cause =>
      note (.writeFailed cause)
      throw 1

def readFile (path : Text) : IO Reading := do
  match ← EIO.toBaseIO (IO.FS.Handle.mk (String.ofList path) .read) with
  | .error e => return .cannotOpen (failureOf e)
  | .ok handle =>
    match ← EIO.toBaseIO handle.readBinToEnd with
    | .error e => return .cannotRead (failureOf e)
    | .ok bytes => return .ofBytes bytes

/-- Reads the settings file. One that need not be there is read only if something stands there. -/
def readSettingsFile : SettingsSource → IO (Option Reading)
  | .named path => return some (← readFile path)
  | .standard path => do
    match ← EIO.toBaseIO (IO.FS.realPath (String.ofList path)) with
    | .error _ => return none
    | .ok _ => return some (← readFile path)

/-- The records of a file of the running process, each ended by a zero byte. -/
def processRecords (name : String) : IO (List ByteArray) := do
  let bytes ← try IO.FS.readBinFile s!"/proc/self/{name}" catch _ => pure .empty
  return (bytes.data.toList.splitOnP (· == 0)).dropLast.map fun record => ⟨record.toArray⟩

/-- The arguments as they are given, if the system tells, else as they are read. -/
def givenArguments (arguments : List Text) : IO (List Word) := do
  let given := (← processRecords "cmdline").drop 1
  return if given.length = arguments.length then given.map .ofBytes else arguments.map .text

/-- The bytes that the environment names the home directory in, if it does. -/
def homeBytes : IO (Option ByteArray) := do
  let name := "HOME=".toUTF8
  let record? := (← processRecords "environ").find? fun record =>
    record.data.toList.take name.size == name.data.toList
  match record? with
  | some record => return some (record.extract name.size record.size)
  | none => return (← IO.getEnv "HOME").map String.toUTF8

/-- Whether the standard output is a terminal. Its size cannot be asked for from here. -/
def currentWindow : IO Window := do
  return if ← (← IO.getStdout).isTty then .unknown else .noTerminal

/-- The pages that can be asked for. -/
def pages : Page → Text
  | .version => "bracketlight\n".toList
  | .summary | .help =>
    ("Replay cursor keys over a command line and show the bracket highlighting output\n\n" ++
      "Usage: bracketlight [OPTIONS] <COMMAND_LINE>\n").toList

def command (arguments : List Word) : IO UInt32 := do
  match Request.read arguments with
  | .error cause =>
    let _ ← writeTo (← IO.getStderr) ("error: ".toList ++ cause.message ++ ['\n'])
    return usageStatus.toUInt32
  | .ok (.page page) =>
    let _ ← writeTo (← IO.getStdout) (pages page)
    return 0
  | .ok (.replay o) =>
    let site : Site := ⟨⟨[]⟩, [], ← homeBytes⟩
    let reading ← readSettingsFile (o.settingsSource site.homePath)
    let p := plan o (← currentWindow) site.homePath reading
    match ← (p.steps.forM perform).run with
    | .ok _ => return p.status.toUInt32
    | .error status => return status

end BracketCue.CommandLine

def main (arguments : List String) : IO UInt32 := do
  BracketCue.CommandLine.command
    (← BracketCue.CommandLine.givenArguments (arguments.map String.toList))
