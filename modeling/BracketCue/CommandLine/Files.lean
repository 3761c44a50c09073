import BracketCue.Journal.Failure

/-!
# Files

What reading a file gives, and trees of files for runs that touch no disk. A path is followed
through a tree one component at a time, from the root if it begins with a slash and from a working
directory if not. What may not be read is there all the same, and through a directory that may not
be entered no path leads.
-/
namespace BracketCue.CommandLine

/-- What comes of opening and reading a file of text. -/
inductive Reading
  | contents (text : Text)
  | cannotOpen (cause : Failure)
  | cannotRead (cause : Failure)

/-- What reading the bytes of a file gives. Only text in UTF-8 is read. -/
def Reading.ofBytes (bytes : ByteArray) : Reading :=
  match Text.ofUtf8? bytes with
  | none => .cannotRead .notText
  | some text => .contents text

/-- What stands at a path, and what one may do with it. -/
inductive Node
  | file (bytes : ByteArray) (readable : Bool)
  | directory (readable enterable : Bool)

/-- What comes of opening and reading what stands at a path. A directory opens but has no text. -/
def Node.read : Node → Reading
  | .file bytes true => .ofBytes bytes
  | .directory true _ => .cannotRead .isDirectory
  | .file _ false | .directory false _ => .cannotOpen .permissionDenied

/-- A tree of files: what stands at each place, a place being the names that lead to it from the
root. The root is a directory and is not listed. -/
structure FileTree where
  entries : List (List Text × Node)

/-- The length in bytes of the longest name that a directory can hold. -/
def longestName : Nat := 255

/-- The length in bytes of the longest path that can be asked for. -/
def longestPath : Nat := 4095

namespace FileTree

def at? (t : FileTree) (place : List Text) : Option Node :=
  if place = [] then some (.directory true true) else t.entries.lookup place

/-- The place that one component of a path leads to. Nothing lies beyond a file. In a directory,
an empty component, as after a final slash, stays, as a single dot does, and two dots lead back;
two dots at the root stay at the root. -/
def enter (t : FileTree) (place : List Text) (component : Text) : Except Failure (List Text) :=
  match t.at? place with
  | none => .error .noEntry
  | some (.file ..) => .error .notDirectory
  | some (.directory _ enterable) =>
    if component = [] then .ok place
    else if !enterable then .error .permissionDenied
    else if component = ['.'] then .ok place
    else if component = ['.', '.'] then .ok place.dropLast
    else if longestName < Text.byteSize component then .error .nameTooLong
    else
      let next := place ++ [component]
      if (t.at? next).isSome then .ok next else .error .noEntry

/-- What stands at a path from a working directory. The empty path leads nowhere. -/
def find (t : FileTree) (working : List Text) (path : Text) : Except Failure Node := do
  if path = [] then throw .noEntry
  if longestPath < Text.byteSize path then throw .nameTooLong
  let start := if path.head? = some '/' then [] else working
  let place ← (path.splitOnP (· == '/')).foldlM t.enter start
  match t.at? place with
  | some node => return node
  | none => throw .noEntry

def read (t : FileTree) (working : List Text) (path : Text) : Reading :=
  match t.find working path with
  | .error cause => .cannotOpen cause
  | .ok node => node.read

/-- What comes of opening and reading a path at which something stands, `none` if nothing does. -/
def readIfPresent (t : FileTree) (working : List Text) (path : Text) : Option Reading :=
  match t.find working path with
  | .error _ => none
  | .ok node => some node.read

/-- The tree with a directory at a place, in which files and empty directories stand by name. -/
def addDirectory (t : FileTree) (place : List Text) (files : List (Text × ByteArray))
    (directories : List Text) : FileTree :=
  ⟨t.entries ++ [(place, .directory true true)] ++
    files.map (fun (name, bytes) => (place ++ [name], .file bytes true)) ++
    directories.map fun name => (place ++ [name], .directory true true)⟩

/-- The directories that a system has at its root, and the device that is always empty. -/
def system : FileTree :=
  let top := ["bin", "boot", "dev", "etc", "home", "lib", "media", "mnt", "opt", "proc", "root",
    "run", "sbin", "srv", "sys", "tmp", "usr", "var"]
  ⟨(top.map fun name => ([name.toList], .directory true true)) ++
    [(["dev".toList, "null".toList], .file .empty true)]⟩

end FileTree
end BracketCue.CommandLine
