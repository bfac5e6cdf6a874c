import ScriptDoc.Document.Categorize
import ScriptDoc.Notice

/-!
# Merging documents

Records of two documents are reconciled by name.  A record that only the second document has is
introduced as it is; of two different records of one name the second one's values count where it
has any, field by field, and a list counts as a whole.

* `Patch`, one value or list over another;
* `FunctionRecord.merge`, `EnumRecord.merge`, `GlobalRecord.merge`;
* `reconcile`, two lists of records;
* `Document.merge`, `Document.fold`.
-/

namespace ScriptDoc

namespace Patch

/-- The second value if there is one, else the first. -/
def value {α : Type} (base incoming : Option α) : Option α := incoming.or base

/-- The second list unless it is empty, else the first. -/
def list {α : Type} (base incoming : List α) : List α :=
  if incoming.isEmpty then base else incoming

@[simp] theorem value_none {α : Type} (base : Option α) : value base none = base := by
  cases base <;> rfl

@[simp] theorem value_some {α : Type} (base : Option α) (a : α) : value base (some a) = some a :=
  rfl

@[simp] theorem list_nil {α : Type} (base : List α) : list base [] = base := rfl

@[simp] theorem list_cons {α : Type} (base : List α) (a : α) (as : List α) :
    list base (a :: as) = a :: as := rfl

end Patch

/-- Two records of one function. Name and groups stay. -/
def FunctionRecord.merge (base incoming : FunctionRecord) : FunctionRecord :=
  if base = incoming then base
  else
    { base with
      shortDescription := Patch.value base.shortDescription incoming.shortDescription
      usage := Patch.value base.usage incoming.usage
      returnDescription := Patch.value base.returnDescription incoming.returnDescription
      returnType := Patch.value base.returnType incoming.returnType
      origin := Patch.value base.origin incoming.origin
      extendedDescription := Patch.list base.extendedDescription incoming.extendedDescription
      parameters := Patch.list base.parameters incoming.parameters }

/-- Whether two enums have the same name and the same members, each as often, in any order. -/
def EnumRecord.same (a b : EnumRecord) : Bool := a.name == b.name && a.members.isPerm b.members

/-- Two records of one enum. -/
def EnumRecord.merge (base incoming : EnumRecord) : EnumRecord :=
  if base.same incoming then base
  else { base with members := Patch.list base.members incoming.members }

/-- Two records of one global. -/
def GlobalRecord.merge (base incoming : GlobalRecord) : GlobalRecord :=
  if base = incoming then base
  else
    { base with
      description := Patch.value base.description incoming.description
      typeName := Patch.value base.typeName incoming.typeName
      value := Patch.value base.value incoming.value }

/-- Records that are known by a name. -/
class Named (α : Type) where
  name : α → String

instance : Named FunctionRecord := ⟨FunctionRecord.name⟩
instance : Named EnumRecord := ⟨EnumRecord.name⟩
instance : Named GlobalRecord := ⟨GlobalRecord.name⟩

section Named

variable {α : Type} [Named α]

/-- The record of a name. -/
def findNamed? (name : String) (rs : List α) : Option α := rs.find? (Named.name · == name)

/-- Puts a record into the place of the one with its name, or at the end. -/
def putNamed (r : α) : List α → List α
  | [] => [r]
  | x :: xs => if Named.name x == Named.name r then r :: xs else x :: putNamed r xs

/-- One record for each name: the last one, in the place of the first. -/
def lastNamed (rs : List α) : List α := rs.foldl (fun acc r => putNamed r acc) []

/-- One record for each name: the first one. -/
def firstNamed (rs : List α) : List α :=
  rs.foldl (fun acc r => if (findNamed? (Named.name r) acc).isSome then acc else acc ++ [r]) []

/-- How two records of one kind are compared and merged. -/
structure MergeRule (α : Type) where
  kind : RecordKind
  same : α → α → Bool
  merge : α → α → α

/-- What happens to records `known` when one more record comes in. -/
def reconcileStep (rule : MergeRule α) (known : List α) (r : α) : List α × List Notice :=
  match findNamed? (Named.name r) known with
  | none => (known ++ [r], [.introduced rule.kind (Named.name r)])
  | some x =>
    if rule.same x r then (known, [])
    else (putNamed (rule.merge x r) known, [.merged rule.kind (Named.name r)])

/-- Brings records in one after the other. -/
def reconcileFrom (rule : MergeRule α) (known : List α) : List α → List α × List Notice
  | [] => (known, [])
  | r :: rest =>
    let (known, notices) := reconcileStep rule known r
    let (all, more) := reconcileFrom rule known rest
    (all, notices ++ more)

/-- Reconciles two lists of records. -/
def reconcile (rule : MergeRule α) (base incoming : List α) : List α × List Notice :=
  reconcileFrom rule (lastNamed base) incoming

end Named

/-- The rule for functions. -/
def FunctionRecord.mergeRule : MergeRule FunctionRecord :=
  ⟨.function, fun a b => a == b, FunctionRecord.merge⟩

/-- The rule for enums. -/
def EnumRecord.mergeRule : MergeRule EnumRecord := ⟨.enum, EnumRecord.same, EnumRecord.merge⟩

/-- The rule for globals. -/
def GlobalRecord.mergeRule : MergeRule GlobalRecord :=
  ⟨.global, fun a b => a == b, GlobalRecord.merge⟩

namespace Document

/-- Merges a document into another one, with a notice for every record that changes. Categories are
made anew from the functions. -/
def mergeLogged (base incoming : Document) : Document × List Notice :=
  let functions := reconcile FunctionRecord.mergeRule base.functions incoming.functions
  let enums := reconcile EnumRecord.mergeRule base.enums incoming.enums
  let globals := reconcile GlobalRecord.mergeRule base.globals incoming.globals
  (⟨categorize functions.1, enums.1, globals.1⟩, functions.2 ++ enums.2 ++ globals.2)

/-- Merges a document into another one. -/
def merge (base incoming : Document) : Document := (mergeLogged base incoming).1

/-- Merges the documents from position `position` of `total` on, where `result` is what the merges
before have given and `previous` the document before. -/
def foldFrom (cumulative : Bool) (total position : Nat) (result previous : Document) :
    List Document → Document × List Notice
  | [] => (result, [])
  | d :: rest =>
    let (merged, notices) := mergeLogged (if cumulative then result else previous) d
    let (final, more) := foldFrom cumulative total (position + 1) merged d rest
    (final, .folding position total :: notices ++ more)

/-- Merges documents in their order. Each one is merged into the result so far if `cumulative`, else
into the document before it, so that only the last two count. -/
def foldLogged (cumulative : Bool) : List Document → Document × List Notice
  | [] => (empty, [])
  | d :: rest => foldFrom cumulative (rest.length + 1) 2 d d rest

/-- Merges documents in their order. -/
def fold (cumulative : Bool) (ds : List Document) : Document := (foldLogged cumulative ds).1

end Document

end ScriptDoc
