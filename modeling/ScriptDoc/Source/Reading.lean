import ScriptDoc.Dump.Import
import ScriptDoc.Files.Discovery
import ScriptDoc.Settings.Basic
import ScriptDoc.Source.Generation
import ScriptDoc.Work

/-!
# Reading source files and dumps

* `SourceUnit.load` reads a script file, `Dump.load` a dump file;
* `SourceUnit.outcome` reads the lines of a unit, or fails;
* `Discovery.discover` lists the script files below a directory;
* `Generation.fromDirectory` generates a document from all of them.

Bytes that are no text become replacement characters, so only a missing file is a failure.  A path that is
too long is an accident, as whether there is a file cannot be told.
-/

namespace ScriptDoc

open ScriptDoc.Text

/-- The lines of the file at a path, or a failure if there is no file. -/
def readLines (missing : Failure) (p : Path) : Work (List String) := do
  if ← Work.inspect Workspace.isFile p then
    return splitLines (Workspace.lossyText (← Work.inspect Workspace.read p))
  else Work.fail missing

/-- The lines of a script file. -/
def SourceUnit.load (path : String) : Work (List String) :=
  readLines (.sourceNotFound path) (Path.ofString path)

/-- Reads a unit. The error that ends a reading is a failure of the whole unit, not of one block. -/
def SourceUnit.outcome (marker : String) (strict : Bool) (identifier : String)
    (lines : List String) : Except Failure UnitResult × List Notice :=
  let (result, notices) := SourceUnit.parse marker strict identifier lines
  (result.mapError fun e => .block e true, notices)

/-- The document of a dump file. -/
def Dump.load (dedupe : Bool) (path : String) : Work (Document × List Notice) := do
  match Dump.parse dedupe (← readLines (.dumpNotFound path) (Path.ofString path)) with
  | .ok result => return result
  | .error line => Work.fail (.contentBeforeSection line)

namespace Discovery

/-- What some lines of ignore patterns leave out. -/
def compiled (lines : List String) : Work (String → Bool) := do
  match (← Work.surroundings).patterns lines with
  | .ok leavesOut => return leavesOut
  | .error e => Work.crash (.badPattern e)

/-- What the patterns of the settings leave out. -/
def excludedBy (settings : DiscoverySettings) : Work (String → Bool) :=
  if settings.exclude.isEmpty then return fun _ => false else compiled settings.exclude

/-- What the ignore file of a directory leaves out. -/
def ignoreFile (root : Path) : Work (String → Bool) := do
  let p := root.child ".gitignore"
  if ← Work.inspect Workspace.isFile p then
    compiled (splitLines (Workspace.lossyText (← Work.inspect Workspace.read p)))
  else return fun _ => false

/-- What the ignore file of a directory leaves out, if it counts. -/
def ignoredBy (settings : DiscoverySettings) (root : Path) : Work (String → Bool) :=
  if settings.respectIgnoreFile then ignoreFile root else return fun _ => false

/-- The script files below a directory, in the order of their paths. -/
def discover (settings : DiscoverySettings) (root : String) : Work (List Path) := do
  let p := Path.ofString root
  if ← Work.inspect Workspace.isDirectory p then
    let excluded ← excludedBy settings
    let ignored ← ignoredBy settings p
    let base ← Work.inspect Workspace.locate p
    let query : Query := ⟨settings.extensions.map suffixOfExtension, [excluded, ignored]⟩
    return files (← Work.workspace) query p base
  else Work.fail (.directoryNotFound root)

end Discovery

namespace Generation

/-- What is read at a path when it is its turn. Files in `gone` are missing by then. -/
def bytesAt (w : Workspace) (gone : List Path) (p : Path) : Except FileError (List UInt8) := do
  let bytes ← w.read p
  if gone.contains p then .error .notFound else .ok bytes

/-- Takes the file at a path into a run. A missing file is a failure; a path that is too long ends the run,
of which only the notices stay. -/
def Run.file (settings : ParserSettings) (w : Workspace) (gone : List Path)
    (s : Run × List (String × String)) (p : Path) :
    Except (FileFailure × List Notice) (Run × List (String × String)) :=
  match bytesAt w gone p with
  | .ok bytes =>
    .ok (s.1.unit settings.marker settings.strict p.text (splitLines (Workspace.lossyText bytes)), s.2)
  | .error .nameTooLong => .error (⟨.nameTooLong, [p]⟩, s.1.notices)
  | .error _ =>
    let reason := (Failure.sourceNotFound p.text).message
    .ok (s.1.note (.unreadable p.text reason), setFailure p.text reason s.2)

/-- Generates a document from files. Failures to read come after all others. -/
def fromFiles (settings : ParserSettings) (w : Workspace) (gone paths : List Path) :
    Except FileFailure Generation × List Notice :=
  match paths.foldlM (Run.file settings w gone) ({}, []) with
  | .ok (s, unread) =>
    let failures := unread.foldl (fun fs f => setFailure f.1 f.2 fs) s.failures
    (.ok { s.result with failures }, s.notices)
  | .error (f, notices) => (.error f, notices)

/-- Generates a document from the script files below a directory, as far as their paths are not too long. -/
def sweep (settings : Settings) (gone : List Path) (root : String) :
    Work (Except FileFailure Generation × List Notice) := do
  let paths ← Discovery.discover settings.discovery root
  let (result, notices) := fromFiles settings.parser (← Work.workspace) gone paths
  return (result, .found paths.length root :: notices)

/-- Generates a document from the script files below a directory. -/
def fromDirectory (settings : Settings) (gone : List Path) (root : String) :
    Work (Generation × List Notice) := do
  match ← sweep settings gone root with
  | (.ok g, notices) => return (g, notices)
  | (.error f, _) => Work.crash (.files f)

end Generation

end ScriptDoc
