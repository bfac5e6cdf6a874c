import ScriptDoc.Notice
import ScriptDoc.Source.DocBlock
import ScriptDoc.Text.Lines

/-!
# Source units

A source unit is the list of lines of one script file.  A line is a doc line, a declaration, or
something else (`LineKind`); a doc block belongs to the declaration that follows its last line
directly.  `SourceUnit.attached` lists the declarations of a unit that have a doc block,
`SourceUnit.parse` reads them all.
-/

namespace ScriptDoc

open ScriptDoc.Text

/-- What a line of a source unit is. -/
inductive LineKind where
  /-- A doc line, with what follows the marker. -/
  | doc (content : String)
  /-- A function declaration. -/
  | declaration (text : String)
  | other
  deriving DecidableEq, Repr

/-- The marker that starts a doc line, unless another one is set. -/
def defaultMarker : String := "--? "

/-- A line is a doc line if it starts with the marker, else a declaration if it starts with the
word `function` after blanks. -/
def LineKind.of (marker line : String) : LineKind :=
  let line := chomp line
  match marker.toList.isPrefixOf? line.toList with
  | some rest => .doc (String.ofList (trim rest))
  | none =>
    let text := trimmed line
    if "function".toList.isPrefixOf text.toList then .declaration text else .other

/-- A declaration with the doc block directly above it. -/
structure Attached where
  declaration : String
  block : List String
  deriving DecidableEq, Repr

/-- The documented declarations of `lines`, where `pending` holds the doc lines directly above the
first of them. -/
def SourceUnit.attachedAfter (pending : List String) : List LineKind → List Attached
  | [] => []
  | .doc content :: rest => attachedAfter (pending ++ [content]) rest
  | .declaration text :: rest =>
    if pending.isEmpty then attachedAfter [] rest
    else ⟨text, pending⟩ :: attachedAfter [] rest
  | .other :: rest => attachedAfter [] rest

/-- What a source unit holds, with its name. -/
structure UnitResult where
  identifier : String
  functions : List FunctionRecord
  diagnostics : List String
  deriving DecidableEq, Repr

namespace SourceUnit

/-- The documented declarations of a unit. -/
def attached (marker : String) (lines : List String) : List Attached :=
  attachedAfter [] (lines.map (LineKind.of marker))

/-- The record of a documented declaration. -/
def read (identifier : String) (a : Attached) : Except BlockError FunctionRecord :=
  FunctionRecord.ofBlock a.declaration a.block (some identifier)

/-- What is said of a doc block of a unit that documents nothing. -/
def diagnostic (identifier : String) (e : BlockError) : String := identifier ++ ": " ++ e.message

/-- Whether an error ends the reading of its unit: only a bad argument directive does, and only in
strict mode. -/
def isFatal (strict : Bool) : BlockError → Bool
  | .nameless _ => false
  | .badArguments _ _ => strict

/-- The outcomes up to the first fatal one, and that one. -/
def untilFatal (strict : Bool) :
    List (Except BlockError FunctionRecord) →
      List (Except BlockError FunctionRecord) × Option BlockError
  | [] => ([], none)
  | .ok f :: rest =>
    let (outcomes, fatal) := untilFatal strict rest
    (.ok f :: outcomes, fatal)
  | .error e :: rest =>
    if isFatal strict e then ([], some e)
    else
      let (outcomes, fatal) := untilFatal strict rest
      (.error e :: outcomes, fatal)

/-- The functions among outcomes. -/
def functionsOf (outcomes : List (Except BlockError FunctionRecord)) : List FunctionRecord :=
  outcomes.filterMap fun
    | .ok f => some f
    | .error _ => none

/-- The errors among outcomes. -/
def errorsOf (outcomes : List (Except BlockError FunctionRecord)) : List BlockError :=
  outcomes.filterMap fun
    | .ok _ => none
    | .error e => some e

/-- Reads a unit. In strict mode a bad argument directive ends the reading with an error; the
notices of the blocks discarded before it stay. -/
def parse (marker : String) (strict : Bool) (identifier : String) (lines : List String) :
    Except BlockError UnitResult × List Notice :=
  let (outcomes, fatal) := untilFatal strict ((attached marker lines).map (read identifier))
  let diagnostics := (errorsOf outcomes).map (diagnostic identifier)
  let result :=
    match fatal with
    | some e => .error e
    | none => .ok ⟨identifier, functionsOf outcomes, diagnostics⟩
  (result, diagnostics.map .discarded)

end SourceUnit

end ScriptDoc
