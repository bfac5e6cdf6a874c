import ScriptDoc.Document.Merge
import ScriptDoc.Source.Unit

/-!
# Generating a document from source units

Every unit is read on its own.  A unit that fails leaves only its failure behind; of the functions
of the others the first of each name goes into the document.
-/

namespace ScriptDoc

/-- What generation gives: the document, the readings of the units that did not fail, and the
failures by unit. -/
structure Generation where
  document : Document
  units : List UnitResult
  failures : List (String × String)
  deriving DecidableEq, Repr

namespace Generation

/-- Sets the value of a key: in its place if the key is there, else at the end. -/
def setFailure (key reason : String) : List (String × String) → List (String × String)
  | [] => [(key, reason)]
  | (k, r) :: rest => if k == key then (k, reason) :: rest else (k, r) :: setFailure key reason rest

/-- The state of a run. -/
structure Run where
  functions : List FunctionRecord := []
  units : List UnitResult := []
  failures : List (String × String) := []
  notices : List Notice := []

/-- Adds a notice. -/
def Run.note (s : Run) (n : Notice) : Run := { s with notices := s.notices ++ [n] }

/-- Adds a function of a unit, unless one of its name is there. -/
def Run.add (identifier : String) (s : Run) (f : FunctionRecord) : Run :=
  match findNamed? f.name s.functions with
  | some first => s.note (.duplicate f.name identifier (first.origin.getD "None"))
  | none => { s with functions := s.functions ++ [f] }

/-- Takes a unit into the run. -/
def Run.unit (marker : String) (strict : Bool) (s : Run) (identifier : String)
    (lines : List String) : Run :=
  let (result, notices) := SourceUnit.parse marker strict identifier lines
  let s := { s with notices := s.notices ++ notices }
  match result with
  | .error e =>
    { s.note (.aborted identifier e.message) with
      failures := setFailure identifier e.message s.failures }
  | .ok u =>
    let s := { s with units := s.units ++ [u] }
    let s := if u.functions.isEmpty then s else s.note (.documented u.functions.length identifier)
    u.functions.foldl (Run.add identifier) s

/-- The outcome of a run. -/
def Run.result (s : Run) : Generation :=
  ⟨Document.ofFunctions s.functions, s.units, s.failures⟩

/-- Generates a document from units, each an identifier with its lines. -/
def generate (marker : String) (strict : Bool) (units : List (String × List String)) :
    Generation × List Notice :=
  let s := units.foldl (fun s u => Run.unit marker strict s u.1 u.2) {}
  (s.result, s.notices)

/-- The diagnostics of all units. -/
def diagnostics (g : Generation) : List String := g.units.flatMap (·.diagnostics)

end Generation

end ScriptDoc
