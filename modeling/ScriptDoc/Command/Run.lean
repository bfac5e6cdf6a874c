import ScriptDoc.Command.Session
import ScriptDoc.Command.Invocation
import ScriptDoc.Document.Storage
import ScriptDoc.Settings.Layers
import ScriptDoc.Source.Reading

/-!
# Running commands

What each command does, as a session: `Command.run`.
-/

namespace ScriptDoc

/-- The path that an operand names. -/
def pathOperand (word : String) : Session Path :=
  if word.toList.contains (Char.ofNat 0) then Session.fail (.accident (.files ⟨.nullCharacter, []⟩))
  else return Path.ofString word

/-- What is said when a document has been saved. -/
def savedLine (d : Document) (p : Path) : String :=
  s!"Saved {toString d.functions.length} functions, {toString d.enums.length} enums, "
    ++ s!"{toString d.globals.length} globals to {p.text}"

/-- Saves a document where the settings say. A file that cannot be written ends the session. -/
def saveDocument (d : Document) (output : OutputSettings) : Session Unit := do
  match ← Session.attempt (Document.save (some output.indent) output.path d) with
  | .ok p => Session.print (·.success (savedLine d p))
  | .error (.accident (.files f)) =>
    if f.error == .nullCharacter then Session.fail (.accident (.files f))
    else
      Session.print (·.error s!"Failed to write {output.path}: {f.message}")
      Session.exit 1
  | .error t => Session.fail t

/-- Prints or saves a document. -/
def deliver (d : Document) (output : OutputSettings) (destination : Destination) : Session Unit :=
  if destination.standardOutput then Session.print fun _ => Console.document d.wire
  else saveDocument d output

/-- Suggests what to do with a document that was saved. -/
def suggestUnlessPrinted (destination : Destination) (text : String) : Session Unit :=
  if destination.standardOutput then pure () else Session.print (·.suggest text)

namespace Command

/-- Generates a document from the script files below a directory. -/
def runGenerate (directory : String) (marker : Option String) (strict : Option Bool)
    (extensions : List String) (destination : Destination) : Session Unit := do
  let root ← pathOperand directory
  let settings ← Session.perform (Settings.resolve { marker, strict, output := destination.path })
  let settings :=
    if extensions.isEmpty then settings
    else { settings with discovery := { settings.discovery with extensions } }
  Session.info s!"Generating scardoc for directory: {root.text}"
  let (result, notices) ← Session.perform (Generation.sweep settings [] root.text)
  Session.notices notices
  let g ← Session.finished result
  Session.print (·.progress s!"Parsed {toString g.units.length} source files")
  if !g.failures.isEmpty then
    Session.print (·.warning s!"Skipped {toString g.failures.length} source files")
  Session.print (·.debug s!"{toString g.diagnostics.length} doc blocks discarded")
  deliver g.document settings.output destination
  suggestUnlessPrinted destination
    s!"Merge with the engine dump: scardoc merge {settings.output.path} DUMP.json"

/-- A parameter in a list of arguments. -/
def parameterText (p : Parameter) : String :=
  p.typeName ++ " " ++ p.name ++ (if p.required then "" else "?")

/-- A text, or another one in the place of an absent or empty one. -/
def textOr (other : String) (t : Option String) : String :=
  match t with
  | some s => if s.isEmpty then other else s
  | none => other

/-- The functions of a unit in a table. -/
def unitTable (u : UnitResult) : Table :=
  let row (f : FunctionRecord) : List String :=
    [f.name, ", ".intercalate (f.parameters.map parameterText), textOr "-" f.returnType,
      textOr "" f.shortDescription]
  { headers := ["Function", "Arguments", "Returns", "Summary"]
    rows := u.functions.map row
    title := some s!"{u.identifier} ({toString u.functions.length} functions)" }

/-- Lists the documented functions of a script file. -/
def runParse (source : String) (marker : Option String) (strict : Option Bool) : Session Unit := do
  let path ← pathOperand source
  let settings ← Session.perform (Settings.resolve { marker, strict })
  let lines ← Session.perform (SourceUnit.load path.text)
  let (result, notices) :=
    SourceUnit.outcome settings.parser.marker settings.parser.strict path.text lines
  Session.notices notices
  match result with
  | .error f => Session.fail (.failure f)
  | .ok u =>
    Session.printTable (unitTable u)
    if !u.diagnostics.isEmpty then
      Session.info s!"{toString u.diagnostics.length} doc blocks discarded"

/-- Converts a dump to a document. -/
def runDump (file : String) (dedupe : Bool) (destination : Destination) : Session Unit := do
  let path ← pathOperand file
  let settings ← Session.perform (Settings.resolve { output := destination.path })
  Session.info s!"Reading dump file: {path.text}"
  let (d, notices) ← Session.perform
    (Dump.load (dedupe || settings.dump.dedupeFirstMember) path.text)
  Session.notices notices
  deliver d settings.output destination
  suggestUnlessPrinted destination s!"Inspect it: scardoc inspect categories {settings.output.path}"

/-- Loads documents one after the other. -/
def loadDocuments : List String → Session (List Document)
  | [] => return []
  | source :: rest => do
    Session.info s!"Loading {source}"
    let d ← Session.perform (Document.load source)
    return d :: (← loadDocuments rest)

/-- Merges documents. -/
def runMerge (documents : List String) (cumulative : Bool) (destination : Destination) :
    Session Unit := do
  if documents.length < 2 then Session.fail (.failure .tooFewDocuments)
  if documents.count "-" > 1 then Session.fail (.failure .repeatedStandardInput)
  let settings ← Session.perform (Settings.resolve { output := destination.path })
  let loaded ← loadDocuments documents
  let cumulative := cumulative || settings.merge.cumulative
  if !cumulative && loaded.length > 2 then
    Session.print
      (·.warning "Without --cumulative only the last two documents determine the result")
  let (d, notices) := Document.foldLogged cumulative loaded
  Session.notices notices
  deliver d settings.output destination

/-- The categories of a document in a table. -/
def categoryTable (d : Document) : Table :=
  { headers := ["Category", "Functions"]
    rows := d.categories.map fun c => [c.name, toString c.functions.length]
    title := some s!"Categories ({toString d.categories.length})" }

/-- The rows for the functions of a category. -/
def functionRows (c : Category) : List (List String) :=
  c.functions.map fun f =>
    [c.name, f.name, toString f.parameters.length, textOr "-" f.origin, textOr "" f.shortDescription]

/-- The functions of a document in a table, of one category if it is named. -/
def functionTable (d : Document) (category : Option String) : Table :=
  let rows := (d.categories.filter fun c => category.all (· == c.name)).flatMap functionRows
  { headers := ["Category", "Function", "Args", "Source", "Summary"]
    rows
    title := some s!"Functions ({toString rows.length})" }

/-- A member of an enum, with its value if it has one. -/
def memberText (m : EnumMember) : String :=
  match m.value with
  | some v => m.name ++ "=" ++ v
  | none => m.name

/-- The row of an enum, with its first five members. -/
def enumRow (e : EnumRecord) : List String :=
  let shown := ", ".intercalate ((e.members.take 5).map memberText)
  [e.name, toString e.members.length, if e.members.length > 5 then shown ++ "..." else shown]

/-- The enums of a document in a table, by name. -/
def enumTable (d : Document) : Table :=
  { headers := ["Enum", "Values", "Members"]
    rows := (d.enums.mergeSort fun a b => decide (a.name ≤ b.name)).map enumRow
    title := some s!"Enums ({toString d.enums.length})" }

/-- The row of a global. -/
def globalRow (g : GlobalRecord) : List String :=
  [g.name, textOr "-" g.value, textOr "-" g.typeName, textOr "" g.description]

/-- The globals of a document in a table, by name. -/
def globalTable (d : Document) : Table :=
  { headers := ["Global", "Value", "Type", "Description"]
    rows := (d.globals.mergeSort fun a b => decide (a.name ≤ b.name)).map globalRow
    title := some s!"Globals ({toString d.globals.length})" }

/-- Prints a table, or says why there is none. -/
def showRows (t : Table) (otherwise : String) : Session Unit :=
  if t.rows.isEmpty then Session.info otherwise else Session.printTable t

/-- Lists what a document holds. -/
def runInspect (listing : Listing) (document : String) : Session Unit := do
  let d ← Session.perform (Document.load document)
  match listing with
  | .categories => Session.printTable (categoryTable d)
  | .functions category => showRows (functionTable d category) "No functions matched."
  | .enums => showRows (enumTable d) "No enums defined in this document."
  | .globals => showRows (globalTable d) "No globals defined in this document."

/-- Shows the effective settings. -/
def runShowSettings : Session Unit := do
  let settings ← Session.perform (Settings.resolve {})
  let directory ← Session.perform Settings.configDirectory
  Session.info s!"Config directory: {directory.text}"
  Session.print fun _ => Console.document settings.wire

/-- Shows where the global settings are kept. -/
def runSettingsPath : Session Unit := do
  let p ← Session.perform Settings.globalPath
  Session.print fun _ => Console.data p.text

/-- What a command does. -/
def run : Command → Session Unit
  | .generate directory marker strict extensions destination =>
    runGenerate directory marker strict extensions destination
  | .parse source marker strict => runParse source marker strict
  | .dump file dedupe destination => runDump file dedupe destination
  | .merge documents cumulative destination => runMerge documents cumulative destination
  | .inspect listing document => runInspect listing document
  | .showSettings => runShowSettings
  | .settingsPath => runSettingsPath

end Command

end ScriptDoc
