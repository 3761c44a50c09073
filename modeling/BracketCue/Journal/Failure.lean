import BracketCue.Text.Quoted

/-!
# Failures of the system

Why the system refused to open, read or write something, in the two forms in which messages give it:
with all its parts, or in a few words.
-/
namespace BracketCue

/-- Why the system refused. -/
inductive Failure
  /-- An error of the operating system, by its number and its message. -/
  | system (code : Nat) (message : Text)
  /-- What was read is not text in UTF-8. -/
  | notText
  deriving DecidableEq, Repr

namespace Failure

def noEntry : Failure := .system 2 "No such file or directory".toList

def permissionDenied : Failure := .system 13 "Permission denied".toList

def notDirectory : Failure := .system 20 "Not a directory".toList

def isDirectory : Failure := .system 21 "Is a directory".toList

def noSpace : Failure := .system 28 "No space left on device".toList

/-- A pipe that nobody reads any more. -/
def brokenPipe : Failure := .system 32 "Broken pipe".toList

/-- A name or a path is longer than the system allows. -/
def nameTooLong : Failure := .system 36 "File name too long".toList

/-- The kinds of errors by number. Several numbers can be of one kind. -/
def kinds : List (Nat × String) :=
  [(1, "PermissionDenied"), (2, "NotFound"), (4, "Interrupted"), (7, "ArgumentListTooLong"),
   (11, "WouldBlock"), (12, "OutOfMemory"), (13, "PermissionDenied"), (16, "ResourceBusy"),
   (17, "AlreadyExists"), (18, "CrossesDevices"), (20, "NotADirectory"), (21, "IsADirectory"),
   (22, "InvalidInput"), (26, "ExecutableFileBusy"), (27, "FileTooLarge"), (28, "StorageFull"),
   (29, "NotSeekable"), (30, "ReadOnlyFilesystem"), (31, "TooManyLinks"), (32, "BrokenPipe"),
   (35, "Deadlock"), (36, "InvalidFilename"), (38, "Unsupported"), (39, "DirectoryNotEmpty"),
   (40, "FilesystemLoop"), (95, "Unsupported"), (98, "AddrInUse"), (99, "AddrNotAvailable"),
   (100, "NetworkDown"), (101, "NetworkUnreachable"), (103, "ConnectionAborted"),
   (104, "ConnectionReset"), (107, "NotConnected"), (110, "TimedOut"), (111, "ConnectionRefused"),
   (113, "HostUnreachable"), (115, "InProgress"), (116, "StaleNetworkFileHandle"),
   (122, "QuotaExceeded")]

/-- The kind of an error, if its number has one. -/
def kind (code : Nat) : Text :=
  ((kinds.lookup code).getD "Uncategorized").toList

/-- The failure with all its parts. -/
def describe : Failure → Text
  | .system code message =>
    "Os \x7b code: ".toList ++ Text.decimal code ++ ", kind: ".toList ++ kind code ++
      ", message: ".toList ++ Text.quoted message ++ " \x7d".toList
  | .notText =>
    "Error \x7b kind: InvalidData, message: ".toList ++
      Text.quoted "stream did not contain valid UTF-8".toList ++ " \x7d".toList

/-- The failure in a few words. -/
def brief : Failure → Text
  | .system code message => message ++ " (os error ".toList ++ Text.decimal code ++ ")".toList
  | .notText => "stream did not contain valid UTF-8".toList

end Failure
end BracketCue
