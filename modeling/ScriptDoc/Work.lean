import ScriptDoc.Data.Nesting
import ScriptDoc.Data.Value
import ScriptDoc.Document.Client
import ScriptDoc.Failure
import ScriptDoc.Files.AtomicWrite

/-!
# Work on files

A piece of work reads its surroundings and a workspace, may change files in the workspace, and ends with a
value or with trouble.  Changes made before trouble stay.

The surroundings hold what a run takes as given: what the user and other machines say, and how the
libraries, the interpreter and the devices below it behave.  Links between files and permissions are left
out, and so is output that cannot be printed.
-/

namespace ScriptDoc

/-- What a program finds around it. -/
structure Surroundings where
  environment : List (String × String) := []
  /-- The home directory that the database of users has for the user, if it knows the user at all. -/
  passwordHome : Option String := some "/"
  /-- The name of the operating system. -/
  platform : String := "Linux"
  standardInput : String := ""
  /-- The answers of servers; any other address refuses connections. -/
  replies : List (String × HttpReply) := []
  /-- Whether standard output is a terminal. -/
  terminal : Bool := false
  /-- The time of day, as it stands in the names of crash logs. -/
  timeStamp : String := ""
  /-- The client that asks servers. -/
  client : HttpClient := {}
  /-- The library of ignore patterns: which paths some lines leave out, if all of them are patterns. -/
  patterns : List String → Except Ignore.PatternError (String → Bool) := Ignore.compile
  /-- How deep the readers of texts come. -/
  limits : NestingLimits := {}
  /-- The order of the sets of this process. -/
  setOrder : SetOrder := {}
  /-- The step of a write that is refused, if one is. -/
  fault : Option AtomicWrite.Fault := none

/-- A piece of work that may fail. -/
abbrev Work (α : Type) := Surroundings → Workspace → Except Trouble α × Workspace

namespace Work

instance : Monad Work where
  pure a := fun _ w => (.ok a, w)
  bind m f := fun s w =>
    match m s w with
    | (.ok a, w) => f a s w
    | (.error t, w) => (.error t, w)

/-- Stops with a failure. -/
def fail {α : Type} (f : Failure) : Work α := fun _ w => (.error (.failure f), w)

/-- Stops with an accident. -/
def crash {α : Type} (a : Accident) : Work α := fun _ w => (.error (.accident a), w)

/-- The surroundings. -/
def surroundings : Work Surroundings := fun s w => (.ok s, w)

/-- The workspace. -/
def workspace : Work Workspace := fun _ w => (.ok w, w)

/-- The value of an environment variable. -/
def environmentValue (name : String) : Work (Option String) := fun s w =>
  (.ok (s.environment.lookup name), w)

/-- Looks into the workspace for a path. -/
def inspect {α : Type} (look : Workspace → Path → Except FileError α) (p : Path) : Work α :=
  fun _ w =>
    match look w p with
    | .ok a => (.ok a, w)
    | .error e => (.error (.accident (.files ⟨e, [p]⟩)), w)

/-- Changes the workspace. -/
def change (act : Workspace → Workspace × Option FileFailure) : Work Unit := fun _ w =>
  match act w with
  | (w, none) => (.ok (), w)
  | (w, some f) => (.error (.accident (.files f)), w)

/-- A path from the root of all files on. -/
def absolute (p : Path) : Work Path := fun _ w =>
  (.ok (if p.isAbsolute then p else ⟨"/", w.here ++ p.parts⟩), w)

end Work

end ScriptDoc
