import ScriptDoc.Files.Workspace

/-!
# Finding source files

`discover` walks the directories below a root and lists the files with one of some suffixes.
Directories of version control and of caches are never entered; nor are directories entered or files
listed that some ignore patterns leave out.  A directory whose path is too long cannot be opened and
is passed over.
-/

namespace ScriptDoc.Discovery

open ScriptDoc.Text

/-- The directories that are never entered. -/
def skippedNames : List String :=
  [".git", ".hg", ".svn", "__pycache__", ".tox", ".mypy_cache"]

/-- What a walk looks for. -/
structure Query where
  /-- Suffixes in lower case, each with its dot. -/
  suffixes : List String
  /-- What each list of ignore patterns leaves out. A directory is given with a slash at its end. -/
  ignored : List (String → Bool)

/-- An extension as a suffix in lower case. -/
def suffixOfExtension (extension : String) : String :=
  match extension.toList with
  | '.' :: _ => lowered extension
  | _ => "." ++ lowered extension

/-- Whether some list leaves a path out. -/
def Query.leavesOut (q : Query) (path : String) : Bool := q.ignored.any (· path)

/-- The text of a path below the root. -/
def relativeText (names : List String) : String := "/".intercalate names

/-- Whether a directory is entered. -/
def Query.enters (q : Query) (names : List String) : Bool :=
  !skippedNames.contains (names.getLastD "") && !q.leavesOut (relativeText names ++ "/")

/-- Whether a file is listed, given that its directory is entered. -/
def Query.lists (q : Query) (names : List String) : Bool :=
  q.suffixes.contains (lowered (Path.suffixOf (names.getLastD "")))
    && !q.leavesOut (relativeText names)

/-- The path by which a walk from `root` opens a directory. Below the empty path it starts with a dot. -/
def openedAs (root : Path) (names : List String) : String :=
  if root == {} && !names.isEmpty then "./" ++ relativeText names else (root.below names).text

/-- Whether a directory can be opened. -/
def opens (root : Path) (names : List String) : Bool :=
  decide (Workspace.byteLength (openedAs root names) ≤ Workspace.maxPathBytes)

/-- The files below `names` that are listed, by their names from the root on, which stands at `base`. The
depth of the walk is bounded. -/
def walk (w : Workspace) (q : Query) (root : Path) (base : Location) :
    Nat → List String → List (List String)
  | 0, _ => []
  | depth + 1, names =>
    if opens root names then
      (w.children (base ++ names)).flatMap fun
        | (name, .file _) => if q.lists (names ++ [name]) then [names ++ [name]] else []
        | (name, .directory) =>
          if q.enters (names ++ [name]) then walk w q root base depth (names ++ [name]) else []
    else []

/-- A depth that no location of a workspace exceeds. -/
def depthBound (w : Workspace) : Nat := (w.entries.map (·.1.length)).foldl max 0 + 1

/-- The listed files below a directory, in the order of their paths. -/
def files (w : Workspace) (q : Query) (root : Path) (base : Location) : List Path :=
  ((walk w q root base (depthBound w) []).map root.below).mergeSort Path.le

end ScriptDoc.Discovery
