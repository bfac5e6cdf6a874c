import ScriptDoc.Json.Reader
import ScriptDoc.Json.Writer
import ScriptDoc.Settings.Basic
import ScriptDoc.Work
import ScriptDoc.Text.Lowercase

/-!
# Layers of settings

The effective settings are made of layers, each of which overrides those before: defaults, the
user's global file, the project's file, environment variables, and the command line.

* `configDirectory`, `dataDirectory`: where a user's files are kept;
* `loadGlobal`, `saveGlobal`, `loadProject`: the two files;
* `environmentFlag`: a truth value in the environment;
* `resolve`: all layers together.
-/

namespace ScriptDoc.Settings

open ScriptDoc.Text

/-- The name under which files are kept. -/
def applicationName : String := "scardoc"

/-- Whether an operating system keeps files of settings and of data apart. -/
def separatesDirectories (platform : String) : Bool :=
  platform == "Linux" || "DSB".toList.isPrefixOf platform.toList.reverse

/-- The home directory that a name stands for. One that starts with a tilde stands for another directory and
tells none. -/
def homeOf? (name : String) : Option Path :=
  let stripped := trimRight (· == '/') name.toList
  if stripped.head? == some '~' then none
  else some (Path.ofString (if stripped.isEmpty then "/" else String.ofList stripped))

/-- The home directory: what the environment says, or else the database of users. -/
def home? (s : Surroundings) : Option Path :=
  ((s.environment.lookup "HOME").or s.passwordHome).bind homeOf?

/-- The directory that a variable names, or else one below the home directory. -/
def baseDirectory? (s : Surroundings) (variableName : String) (below : List String) : Option Path :=
  match (s.environment.lookup variableName).filter (!·.isEmpty) with
  | some value => some (Path.ofString value)
  | none => (home? s).map (·.join ⟨"", below⟩)

/-- Where settings are kept. -/
def configPath? (s : Surroundings) : Option Path :=
  if separatesDirectories s.platform then
    (baseDirectory? s "XDG_CONFIG_HOME" [".config"]).map (·.child applicationName)
  else (home? s).map (·.child ("." ++ applicationName))

/-- Where data are kept. -/
def dataPath? (s : Surroundings) : Option Path :=
  if separatesDirectories s.platform then
    (baseDirectory? s "XDG_DATA_HOME" [".local", "share"]).map (·.child applicationName)
  else (home? s).map fun h => (h.child ("." ++ applicationName)).child "logs"

/-- Makes a directory if it is missing. -/
def ensureDirectory (find? : Surroundings → Option Path) : Work Path := do
  match find? (← Work.surroundings) with
  | none => Work.crash .homeUnknown
  | some p =>
    Work.change (·.makeDirectories p)
    return p

/-- The directory of settings, which is made if it is missing. -/
def configDirectory : Work Path := ensureDirectory configPath?

/-- The directory of data, which is made if it is missing. -/
def dataDirectory : Work Path := ensureDirectory dataPath?

/-- The object that a settings file holds. -/
def readObject (file : SettingsFile) (p : Path) : Work Value := do
  let bytes ← Work.inspect Workspace.read p
  match Workspace.strictText bytes with
  | .error e => Work.crash (.undecodableSettings e)
  | .ok text =>
    match Json.read text.toList (← Work.surroundings).limits with
    | .error .longInteger => Work.crash .longInteger
    | .error .tooDeep => Work.crash .deepNesting
    | .error e => Work.fail (.malformedSettings file p.text e)
    | .ok (.map entries) => return .map entries
    | .ok _ => Work.fail (.settingsNotAnObject file p.text)

/-- The user's global file. -/
def globalPath : Work Path := do
  return (← configDirectory).child "config.json"

/-- The settings of the user's global file, or the defaults if there is none. -/
def loadGlobal : Work Settings := do
  let p ← globalPath
  if ← Work.inspect Workspace.isFile p then
    let data ← readObject .global p
    match check data with
    | .good s => return s
    | .bad ps => Work.fail (.invalidSettings p.text modelName ps)
  else return {}

/-- The text in which settings are kept. -/
def fileText (s : Settings) : String := Json.render { ascii := true } s.wire ++ "\n"

/-- Writes the user's global file. Its only number must have no more digits than are read back. -/
def saveGlobal (s : Settings) : Work Unit := do
  let p ← globalPath
  if (Nat.toDigits 10 s.output.indent).length > Json.maxDigits then Work.crash .longInteger
  let fault := (← Work.surroundings).fault
  Work.change (·.write p (fileText s) fault)

/-- The object of the project's file, if there is one. -/
def loadProject : Work (Option Value) := do
  let p ← Work.absolute (Path.ofString ".scardoc.json")
  if ← Work.inspect Workspace.isFile p then
    return some (← readObject .project p)
  else return none

/-- The words for true in the environment. -/
def trueWords : List String := ["1", "true", "yes", "on"]

/-- The words for false in the environment. -/
def falseWords : List String := ["0", "false", "no", "off", ""]

/-- A text of the environment as a truth value. -/
def flag? (raw : String) : Option Bool :=
  let word := lowered (trimmed raw)
  if trueWords.contains word then some true
  else if falseWords.contains word then some false
  else none

/-- The truth value of an environment variable, if it is set. -/
def environmentFlag (name : String) : Work (Option Bool) := do
  match ← Work.environmentValue name with
  | none => return none
  | some raw =>
    match flag? raw with
    | some b => return some b
    | none => Work.fail (.notBoolean name raw)

/-- The value of an environment variable, if it is set to something. -/
def environmentText (name : String) : Work (Option String) := do
  return (← Work.environmentValue name).filter (!·.isEmpty)

/-- Settings from the command line. -/
structure Overrides where
  marker : Option String := none
  strict : Option Bool := none
  output : Option String := none
  format : Option String := none
  deriving DecidableEq, Repr

/-- Sets a field of a section, if there is a value for it. -/
def assign (sectionName field : String) (value? : Option Value) (data : Value) : Work Value := do
  match value?, data with
  | none, _ => return data
  | some v, .map sections =>
    match Value.lookup (.text sectionName) sections with
    | some (.map fields) =>
      return .map (Value.insert (.text sectionName) (.map (Value.insert (.text field) v fields)) sections)
    | _ => Work.crash .sectionNotAnObject
  | some _, _ => Work.crash .sectionNotAnObject

/-- The settings object of all layers. -/
def layered (cli : Overrides) : Work Value := do
  let data := (← loadGlobal).wire
  let data :=
    match ← loadProject with
    | some project => data.overlay project
    | none => data
  let data ← assign "parser" "marker" ((← environmentText "SCARDOC_MARKER").map .text) data
  let data ← assign "parser" "strict" ((← environmentFlag "SCARDOC_STRICT").map .bool) data
  let data ← assign "output" "path" ((← environmentText "SCARDOC_OUTPUT").map .text) data
  let data ← assign "parser" "marker" (cli.marker.map .text) data
  let data ← assign "parser" "strict" (cli.strict.map .bool) data
  let data ← assign "output" "path" (cli.output.map .text) data
  assign "output" "format" (cli.format.map .text) data

/-- The effective settings. -/
def resolve (cli : Overrides) : Work Settings := do
  match check (← layered cli) with
  | .good s => return s
  | .bad ps => Work.fail (.invalidConfiguration modelName ps)

end ScriptDoc.Settings
