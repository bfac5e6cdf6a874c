import ScriptDoc.Files.Path
import ScriptDoc.Text.Lines
import ScriptDoc.Text.Quoted
import ScriptDoc.Text.Utf8

/-!
# Workspaces

A workspace holds files and directories, each at a location (the list of names from the root of all
files), and the location from which relative paths start.

* `locate` follows a path: every part but the last must name a directory, and `..` leads from a
  directory to the one above;
* `read`, `isFile`, `isDirectory` look at what is there;
* `makeDirectories` makes a directory and those above it;
* `overwrite` puts a text into a file.
-/

namespace ScriptDoc

open ScriptDoc.Text

/-- The names from the root of all files. -/
abbrev Location := List String

/-- What stands at a location. -/
inductive Node where
  | file (bytes : List UInt8)
  | directory
  deriving DecidableEq

/-- Why an operation on files fails. -/
inductive FileError where
  | notFound
  | exists
  | notDirectory
  | isDirectory
  | nameTooLong
  | busy
  /-- A path holds a character with which no file can be named, or a text one that has no bytes. -/
  | nullCharacter
  /-- A device failed. -/
  | device
  deriving DecidableEq, Repr

/-- The number and the words for an error. -/
def FileError.message : FileError → String
  | .notFound => "[Errno 2] No such file or directory"
  | .exists => "[Errno 17] File exists"
  | .notDirectory => "[Errno 20] Not a directory"
  | .isDirectory => "[Errno 21] Is a directory"
  | .nameTooLong => "[Errno 36] File name too long"
  | .busy => "[Errno 16] Device or resource busy"
  | .nullCharacter => "embedded null byte"
  | .device => "[Errno 5] Input/output error"

/-- A failed operation on files, with the paths that it was about. -/
structure FileFailure where
  error : FileError
  paths : List Path := []
  deriving DecidableEq, Repr

/-- The words for a failed operation. -/
def FileFailure.message (f : FileFailure) : String :=
  match f.paths with
  | [] => f.error.message
  | ps => f.error.message ++ ": " ++ " -> ".intercalate (ps.map fun p => quoted p.text)

/-- Files and directories. -/
structure Workspace where
  entries : List (Location × Node) := []
  /-- The location from which relative paths start. -/
  here : Location := []

namespace Workspace

/-- What stands at a location. The root is always a directory. -/
def node? (w : Workspace) (l : Location) : Option Node :=
  if l.isEmpty then some .directory else w.entries.lookup l

/-- Puts something at a location. -/
def put (w : Workspace) (l : Location) (n : Node) : Workspace :=
  { w with entries := (w.entries.filter fun e => e.1 != l) ++ [(l, n)] }

/-- Removes what stands at a location. -/
def remove (w : Workspace) (l : Location) : Workspace :=
  { w with entries := w.entries.filter fun e => e.1 != l }

/-- The names directly below a location. -/
def children (w : Workspace) (l : Location) : List (String × Node) :=
  w.entries.filterMap fun e =>
    match e.1.getLast? with
    | some name => if e.1.dropLast == l then some (name, e.2) else none
    | none => none

/-- The most bytes that a name may have. -/
def maxNameBytes : Nat := 255

/-- The most bytes that a path may have. -/
def maxPathBytes : Nat := 4095

/-- The number of bytes of a text. -/
def byteLength (s : String) : Nat := (Utf8.encode s.toList).length

/-- Follows parts from a location. -/
def follow (w : Workspace) (l : Location) : List String → Except FileError Location
  | [] => .ok l
  | part :: rest =>
    match w.node? l with
    | none => .error .notFound
    | some (.file _) => .error .notDirectory
    | some .directory =>
      if part == ".." then follow w l.dropLast rest
      else if byteLength part > maxNameBytes then .error .nameTooLong
      else follow w (l ++ [part]) rest

/-- The location that a path names, whether something stands there or not. -/
def locate (w : Workspace) (p : Path) : Except FileError Location :=
  if p.text.toList.contains (Char.ofNat 0) then .error .nullCharacter
  else if byteLength p.text > maxPathBytes then .error .nameTooLong
  else follow w (if p.isAbsolute then [] else w.here) p.parts

/-- What stands where a path leads. -/
def stat (w : Workspace) (p : Path) : Except FileError Node := do
  match w.node? (← w.locate p) with
  | some n => .ok n
  | none => .error .notFound

/-- Whether something of a kind stands where a path leads. A name that is too long is an error, any
other obstacle means that nothing stands there. -/
def is (w : Workspace) (kind : Node → Bool) (p : Path) : Except FileError Bool :=
  match w.stat p with
  | .ok n => .ok (kind n)
  | .error .nameTooLong => .error .nameTooLong
  | .error _ => .ok false

/-- Whether a path leads to a file. -/
def isFile (w : Workspace) (p : Path) : Except FileError Bool :=
  w.is (fun | .file _ => true | .directory => false) p

/-- Whether a path leads to a directory. -/
def isDirectory (w : Workspace) (p : Path) : Except FileError Bool :=
  w.is (fun | .file _ => false | .directory => true) p

/-- The bytes of the file to which a path leads. -/
def read (w : Workspace) (p : Path) : Except FileError (List UInt8) := do
  match ← w.stat p with
  | .file bytes => .ok bytes
  | .directory => .error .isDirectory

/-- Makes one directory. -/
def makeDirectory (w : Workspace) (p : Path) : Except FileError Workspace := do
  let l ← w.locate p
  match w.node? l with
  | some _ => .error .exists
  | none => .ok (w.put l .directory)

/-- Makes a directory unless it is there. -/
def ensureDirectory (w : Workspace) (p : Path) : Except FileError Workspace :=
  match w.makeDirectory p with
  | .ok v => .ok v
  | .error .notFound => .error .notFound
  | .error .nullCharacter => .error .nullCharacter
  | .error e =>
    match w.isDirectory p with
    | .ok true => .ok w
    | _ => .error e

/-- Makes the directory of the first `n` parts of a path, and those above it that are missing.
Directories made before a failure stay. -/
def makeDirectoriesTo (w : Workspace) (p : Path) : Nat → Workspace × Option FileFailure
  | 0 =>
    match w.ensureDirectory { p with parts := [] } with
    | .ok v => (v, none)
    | .error e => (w, some ⟨e, [{ p with parts := [] }]⟩)
  | n + 1 =>
    let here : Path := { p with parts := p.parts.take (n + 1) }
    match w.ensureDirectory here with
    | .ok v => (v, none)
    | .error .notFound =>
      match makeDirectoriesTo w p n with
      | (v, some f) => (v, some f)
      | (v, none) =>
        match v.ensureDirectory here with
        | .ok u => (u, none)
        | .error e => (v, some ⟨e, [here]⟩)
    | .error e => (w, some ⟨e, [here]⟩)

/-- Makes a directory and those above it that are missing. -/
def makeDirectories (w : Workspace) (p : Path) : Workspace × Option FileFailure :=
  w.makeDirectoriesTo p p.parts.length

/-- Puts a text into the file to which a path leads, which is made if it is missing. -/
def overwrite (w : Workspace) (p : Path) (text : String) : Workspace × Option FileFailure :=
  match w.locate p with
  | .error e => (w, some ⟨e, [p]⟩)
  | .ok l =>
    match w.node? l with
    | some .directory => (w, some ⟨.isDirectory, [p]⟩)
    | _ => (w.put l (.file (Utf8.encode text.toList)), none)

/-- The text of bytes, flaws replaced, with line feeds at the ends of lines. -/
def lossyText (bytes : List UInt8) : String :=
  String.ofList (unifyNewlines (Utf8.decodeLossy bytes))

/-- The text of bytes, with line feeds at the ends of lines. -/
def strictText (bytes : List UInt8) : Except Utf8.Error String :=
  (Utf8.decode bytes).map fun cs => String.ofList (unifyNewlines cs)

end Workspace

end ScriptDoc
