import ScriptDoc.Console.Markup
import ScriptDoc.Files.Workspace
import ScriptDoc.Files.Ignore
import ScriptDoc.Json.Error
import ScriptDoc.Schema.Problem
import ScriptDoc.Source.DocBlock
import ScriptDoc.Yaml.Error

/-!
# Failures

Two sorts of trouble stop an operation.  A *failure* is foreseen: it belongs to a kind, has words for
the user and gives the program its exit code.  An *accident* is not: the program reports it in a crash
log.
-/

namespace ScriptDoc

/-- The kinds of failures. -/
inductive FailureKind where
  | general
  | invalidUsage
  | sourceRead
  | parse
  | functionDeclaration
  | argumentGrammar
  | argumentDirective
  | dumpFormat
  | documentLoad
  | config
  deriving DecidableEq, Repr

namespace FailureKind

/-- The kind of which a kind is a special case. -/
def parent? : FailureKind → Option FailureKind
  | .general => none
  | .functionDeclaration => some .parse
  | .argumentGrammar => some .parse
  | .argumentDirective => some .parse
  | .dumpFormat => some .parse
  | _ => some .general

/-- The kinds of which a kind is a special case, nearest first. -/
def ancestors (k : FailureKind) : List FailureKind :=
  match k.parent? with
  | none => []
  | some p => p :: p.parent?.toList

/-- The exit code for a kind. -/
def exitCode : FailureKind → Nat
  | .general => 1
  | .invalidUsage => 2
  | .sourceRead => 3
  | .parse => 4
  | .functionDeclaration => 4
  | .argumentGrammar => 4
  | .argumentDirective => 4
  | .dumpFormat => 4
  | .documentLoad => 5
  | .config => 1

/-- Whether a failure of a kind may be given an exit code of its own. -/
def allowsExitCode : FailureKind → Bool
  | .argumentDirective => false
  | _ => true

end FailureKind

/-- The settings files. -/
inductive SettingsFile where
  | global
  | project
  deriving DecidableEq, Repr

/-- The words for a settings file. -/
def SettingsFile.label : SettingsFile → String
  | .global => "global config"
  | .project => "project config"

/-- A failure that the user is told of. -/
inductive Failure where
  | emptyArguments
  | block (error : BlockError) (fatal : Bool)
  | contentBeforeSection (line : Nat)
  | sourceNotFound (path : String)
  | dumpNotFound (path : String)
  | directoryNotFound (root : String)
  | documentNotFound (path : String)
  | documentUndecodable (path : String) (error : Text.Utf8.Error)
  | documentEmpty (path : String)
  | standardInputEmpty
  | httpStatus (code : Nat) (url : String)
  | fetchFailed (url reason : String)
  | malformedJson (error : Json.Error)
  /-- A text is neither JSON, if that was tried, nor YAML. -/
  | malformedDocument (json : Option Json.Error) (yaml : Yaml.Flaw)
  | notAnObject (kind : String)
  | invalidDocument (source : String) (model : String) (problems : List Problem)
  | malformedSettings (file : SettingsFile) (path : String) (error : Json.Error)
  | settingsNotAnObject (file : SettingsFile) (path : String)
  | invalidSettings (path : String) (model : String) (problems : List Problem)
  | notBoolean (variableName raw : String)
  | invalidConfiguration (model : String) (problems : List Problem)
  | tooFewDocuments
  | repeatedStandardInput
  deriving DecidableEq

namespace Failure

/-- The kind of a failure. -/
def kind : Failure → FailureKind
  | .emptyArguments => .argumentGrammar
  | .block (.nameless _) _ => .functionDeclaration
  | .block (.badArguments _ _) _ => .argumentDirective
  | .contentBeforeSection _ => .dumpFormat
  | .sourceNotFound _ => .sourceRead
  | .dumpNotFound _ => .sourceRead
  | .directoryNotFound _ => .sourceRead
  | .documentNotFound _ => .documentLoad
  | .documentUndecodable _ _ => .documentLoad
  | .documentEmpty _ => .documentLoad
  | .standardInputEmpty => .documentLoad
  | .httpStatus _ _ => .documentLoad
  | .fetchFailed _ _ => .documentLoad
  | .malformedJson _ => .documentLoad
  | .malformedDocument _ _ => .documentLoad
  | .notAnObject _ => .documentLoad
  | .invalidDocument _ _ _ => .documentLoad
  | .malformedSettings _ _ _ => .config
  | .settingsNotAnObject _ _ => .config
  | .invalidSettings _ _ _ => .config
  | .notBoolean _ _ => .config
  | .invalidConfiguration _ _ => .config
  | .tooFewDocuments => .invalidUsage
  | .repeatedStandardInput => .invalidUsage

/-- The problems that a failure reports, with the name of the shape that was expected. -/
def problems : Failure → Option (String × List Problem)
  | .invalidDocument _ model ps => some (model, ps)
  | .invalidSettings _ model ps => some (model, ps)
  | .invalidConfiguration model ps => some (model, ps)
  | _ => none

/-- The words for a failure, as far as they do not report problems. -/
def summary : Failure → String
  | .emptyArguments => emptyArgumentsMessage
  | .block e _ => e.message
  | .contentBeforeSection line =>
    "line " ++ toString line ++ ": content before any [ScarDoc:...] section marker"
  | .sourceNotFound path => "Source file not found: " ++ path
  | .dumpNotFound path => "Dump file not found: " ++ path
  | .directoryNotFound root => "Source directory not found: " ++ root
  | .documentNotFound path => "Document file not found: " ++ path
  | .documentUndecodable path e => "Failed to read document file " ++ path ++ ": " ++ e.message
  | .documentEmpty path => "Document file is empty: " ++ path
  | .standardInputEmpty => "No input received from stdin"
  | .httpStatus code url => "HTTP " ++ toString code ++ " fetching document from " ++ url
  | .fetchFailed url reason => "Failed to fetch document from " ++ url ++ ": " ++ reason
  | .malformedJson e => "Invalid JSON: " ++ e.message
  | .malformedDocument json yaml =>
    let first := (json.map fun e => "\n  JSON error: " ++ e.message).getD ""
    "Failed to parse document as JSON or YAML" ++ first ++ "\n  YAML error: " ++ yaml.message
  | .notAnObject kind => "Document must be a JSON/YAML object (got " ++ kind ++ ")"
  | .invalidDocument source _ _ => "Invalid canonical document from " ++ source ++ ": "
  | .malformedSettings file path e => "Invalid " ++ file.label ++ " at " ++ path ++ ": " ++ e.message
  | .settingsNotAnObject file path =>
    "Invalid " ++ file.label ++ " at " ++ path ++ ": expected a JSON object"
  | .invalidSettings path _ _ => "Invalid " ++ SettingsFile.global.label ++ " at " ++ path ++ ": "
  | .notBoolean variableName raw =>
    "Environment variable " ++ variableName ++ " must be a boolean, got '" ++ raw ++ "'"
  | .invalidConfiguration _ _ => "Invalid configuration: "
  | .tooFewDocuments => "merge needs at least two documents"
  | .repeatedStandardInput => "stdin ('-') can only be used once"

/-- The words for a failure; the report of problems comes last. -/
def message (f : Failure) : String :=
  match f.problems with
  | some (model, ps) => f.summary ++ report model ps
  | none => f.summary

/-- The exit code of a failure. -/
def exitCode (f : Failure) : Nat := f.kind.exitCode

end Failure

/-- Something that was not foreseen. -/
inductive Accident where
  /-- An integer of a JSON text has more digits than are converted. -/
  | longInteger
  /-- The values of a JSON text are nested too deeply. -/
  | deepNesting
  /-- A text cannot be indented so far. -/
  | wideIndent
  /-- A YAML text follows the rules of the language, but holds something of which no value is made. -/
  | yamlScalar (error : Yaml.Error)
  /-- A settings file is not UTF-8. -/
  | undecodableSettings (error : Text.Utf8.Error)
  /-- A section of the settings that has to be changed is no object. -/
  | sectionNotAnObject
  /-- A line is no ignore pattern. -/
  | badPattern (error : Ignore.PatternError)
  /-- An operation on files fails. -/
  | files (failure : FileFailure)
  /-- A web address cannot be asked, or what it answers cannot be read. -/
  | badAddress (url : String)
  /-- The home directory is not known. -/
  | homeUnknown
  /-- The name of an output format is not known. -/
  | unknownFormat
  /-- A text that is printed in a box has markup that does not fit together. -/
  | badMarkup (error : Console.Markup.Error)
  deriving DecidableEq

/-- Why an operation stops. -/
inductive Trouble where
  | failure (f : Failure)
  | accident (a : Accident)
  deriving DecidableEq

end ScriptDoc
