import ScriptDoc.Command.Program

/-!
# The command line program

Looks at the files that a run can reach, runs the program on them, writes back what has changed, and
prints what was printed.  There is no connection to servers: every address refuses.
-/

namespace ScriptDoc.CommandLine

/-- The variables of the environment that matter. -/
def variableNames : List String :=
  ["HOME", "XDG_CONFIG_HOME", "XDG_DATA_HOME", "NO_COLOR", "TERM", "SCARDOC_MARKER", "SCARDOC_STRICT",
    "SCARDOC_OUTPUT"]

/-- The variables that are set. -/
def environment : IO (List (String × String)) :=
  variableNames.filterMapM fun name => return (← IO.getEnv name).map (name, ·)

/-- What a program that is started with some words finds around it. -/
def surroundings (words : List String) : IO Surroundings := do
  let input ← if words.contains "-" then (← IO.getStdin).readToEnd else pure ""
  return {
    environment := ← environment
    standardInput := input
    terminal := ← (← IO.getStdout).isTty
    timeStamp := toString (← IO.monoNanosNow) }

/-- The paths that a run can reach: the current directory, the user's own files, and the operands. -/
def reachable (s : Surroundings) (words : List String) : List String :=
  let own := [Settings.configPath? s, Settings.dataPath? s].filterMap (·.map (·.text))
  "." :: own ++ words.filter fun w => !Words.isOption w.toList && w != "-"

/-- Everything below the directory at a location. -/
partial def below (l : Location) (children : Array IO.FS.DirEntry) : IO (List (Location × Node)) := do
  let mut found := []
  for child in children do
    let location := l ++ [child.fileName]
    if ← child.path.isDir then
      found := found ++ (location, .directory) :: (← below location (← child.path.readDir))
    else
      let bytes ← IO.FS.readBinFile child.path
      found := found ++ [(location, .file bytes.toList)]
  return found

/-- What stands where a path leads, with the directories above it. -/
def entriesAt (path : String) : IO (List (Location × Node)) := do
  let full := (← IO.currentDir) / path
  if !(← full.pathExists) then return []
  let real ← IO.FS.realPath full
  let location := real.components.filter fun part => part != "" && part != "/"
  let above := (List.range location.length).map fun n => (location.take n, Node.directory)
  if ← real.isDir then
    return above ++ (location, .directory) :: (← below location (← real.readDir))
  else
    let bytes ← IO.FS.readBinFile real
    return above ++ [(location, .file bytes.toList)]

/-- The files that a run can reach. -/
def workspace (paths : List String) : IO Workspace := do
  let here ← IO.FS.realPath (← IO.currentDir)
  let entries ← paths.mapM entriesAt
  let start : Workspace :=
    { here := here.components.filter fun part => part != "" && part != "/" }
  return entries.flatten.foldl (fun w e => if e.1.isEmpty then w else w.put e.1 e.2) start

/-- Writes back what has changed. A file is written beside its place and then moved there. -/
def writeBack (before after : Workspace) : IO Unit := do
  for (location, node) in after.entries do
    if before.node? location != some node then
      let path := "/" ++ "/".intercalate location
      match node with
      | .directory => IO.FS.createDirAll path
      | .file bytes =>
        let temporary := path ++ ".tmp"
        IO.FS.writeBinFile temporary (ByteArray.mk bytes.toArray)
        IO.FS.rename temporary path

/-- Prints what was printed. -/
def display (p : Printed) : IO Unit := do
  IO.print p.out
  IO.eprint p.err

/-- Runs the program on the words of a command line, and gives its exit code. -/
def run (words : List String) : IO UInt32 := do
  let s ← surroundings words
  let before ← workspace (reachable s words)
  let (result, after) := Program.run s words before
  writeBack before after
  match result with
  | .ok ending =>
    display ending.printed
    return ending.exitCode.toUInt32
  | .error a =>
    IO.eprintln (Program.accidentText a)
    return 1

end ScriptDoc.CommandLine

/-- The program. -/
def main (words : List String) : IO UInt32 := ScriptDoc.CommandLine.run words
