import ScriptDoc.Document.Wire
import ScriptDoc.Json.Reader
import ScriptDoc.Json.Writer
import ScriptDoc.Work
import ScriptDoc.Text.Lowercase
import ScriptDoc.Yaml.Reader

/-!
# Loading and saving documents

A document is loaded from a file, from a server or from standard input, as JSON or as YAML, and saved
as JSON.

* `parseContent`, the object that a text holds;
* `Document.load`, `Document.save`.
-/

namespace ScriptDoc

open ScriptDoc.Text

/-- An object, or a failure for any other value. -/
def requireObject : Value → Except Trouble Value
  | .map entries => .ok (.map entries)
  | v => .error (.failure (.notAnObject v.kindName))

/-- Trouble with a YAML text, which was also tried as JSON if there is an error of that. -/
def yamlTrouble (json : Option Json.Error) : Yaml.Error → Trouble
  | .malformed flaw => .failure (.malformedDocument json flaw)
  | e => .accident (.yamlScalar e)

/-- The object that a YAML text holds. -/
def parseYaml (json : Option Json.Error) (content : String) (limits : NestingLimits := {}) :
    Except Trouble Yaml.Meaning :=
  match Yaml.read content.toList limits with
  | .ok m => (requireObject m.value).map fun _ => m
  | .error e => .error (yamlTrouble json e)

/-- Trouble with a text that is known to be JSON. -/
def jsonTrouble : Json.Error → Trouble
  | .longInteger => .accident .longInteger
  | .tooDeep => .accident .deepNesting
  | e => .failure (.malformedJson e)

/-- The object that a text holds. A text of unknown format is tried as JSON, then as YAML. -/
def parseContent (format : Format) (content : String) (limits : NestingLimits := {}) :
    Except Trouble Yaml.Meaning :=
  if format == .yaml then parseYaml none content limits
  else
    match Json.read content.toList limits with
    | .ok v => (requireObject v).map (⟨·, false⟩)
    | .error e =>
      if format == .unknown && e.isMalformed then parseYaml (some e) content limits
      else .error (jsonTrouble e)

/-- The object that a text holds; an endless one is cut off. -/
def objectOf (limits : NestingLimits) (format : Format) (content : String) : Except Trouble Value :=
  (parseContent format content limits).map (·.value)

/-- Where a document comes from. -/
inductive Source where
  | standardInput
  | server (url : String)
  | file (path : String)
  deriving DecidableEq, Repr

/-- Reads a source: a hyphen is standard input, and a web address a server. -/
def Source.ofString (s : String) : Source :=
  if s == "-" then .standardInput
  else if "http://".toList.isPrefixOf s.toList || "https://".toList.isPrefixOf s.toList then .server s
  else .file s

/-- The format that a file name tells. -/
def Format.ofPath (p : Path) : Format :=
  let suffix := lowered p.suffix
  if suffix == ".json" then .json
  else if suffix == ".yaml" || suffix == ".yml" then .yaml
  else .unknown

/-- A result as a piece of work. -/
def Work.ofExcept {α : Type} (r : Except Trouble α) : Work α := fun _ w => (r, w)

namespace Document

/-- The object that standard input holds. -/
def readStandardInput : Work Value := do
  let s ← Work.surroundings
  if allBlank s.standardInput then Work.fail .standardInputEmpty
  else Work.ofExcept (objectOf s.limits .unknown s.standardInput)

/-- The object that a server answers with. -/
def fetch (url : String) : Work Value := do
  let s ← Work.surroundings
  if !s.client.accepts url then Work.crash (.badAddress url)
  match s.replies.lookup url with
  | none => Work.fail (.fetchFailed url "refused")
  | some reply =>
    if 200 ≤ reply.status && reply.status < 300 then
      match s.client.text? reply with
      | none => Work.crash (.badAddress url)
      | some content =>
        Work.ofExcept (objectOf s.limits (MediaType.format (reply.contentType.getD "")) content)
    else Work.fail (.httpStatus reply.status url)

/-- The object that a file holds. -/
def readFile (path : String) : Work Value := do
  let p := Path.ofString path
  if ← Work.inspect Workspace.isFile p then
    match Workspace.strictText (← Work.inspect Workspace.read p) with
    | .error e => Work.fail (.documentUndecodable path e)
    | .ok content =>
      if allBlank content then Work.fail (.documentEmpty path)
      else Work.ofExcept (objectOf (← Work.surroundings).limits (.ofPath p) content)
  else Work.fail (.documentNotFound path)

/-- The object that a source holds. -/
def readSource (source : String) : Work Value :=
  match Source.ofString source with
  | .standardInput => readStandardInput
  | .server url => fetch url
  | .file path => readFile path

/-- Loads a document. -/
def load (source : String) : Work Document := do
  let object ← readSource source
  match check (object.arranged (← Work.surroundings).setOrder) with
  | .good d => return d
  | .bad ps => Work.fail (.invalidDocument source modelName ps)

/-- The text of a document, indented by `indent`, or in one line. -/
def fileText (indent : Option Nat) (d : Document) : String := Json.render { indent } d.wire ++ "\n"

/-- The widest indentation: the length of a text fits into a signed word of 64 bits. -/
def maxIndent : Nat := 9223372036854775807

/-- Saves a document; the result is the path of its file. -/
def save (indent : Option Nat) (path : String) (d : Document) : Work Path := do
  let p := Path.ofString path
  if indent.any (maxIndent < ·) then Work.crash .wideIndent
  let fault := (← Work.surroundings).fault
  Work.change (·.write p (fileText indent d) fault)
  return p

end Document

end ScriptDoc
