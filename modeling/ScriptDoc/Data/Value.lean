import ScriptDoc.Data.Calendar
import ScriptDoc.Number.Shortest

/-!
# Values

What a JSON or YAML text denotes: scalars, lists, and maps from scalars to values in the order in
which they were written.  In a JSON text all keys are texts; `Value.object` builds such a map.

* `Scalar.sameKey`, when two keys of one map are the same key;
* `Value.insert`, which keeps the place of a key that is there already;
* `Value.overlay`, a recursive update of one object by another;
* `SetOrder` and `Value.arranged`: a set has no order of its own, only one in which a process goes through
  it.
-/

namespace ScriptDoc

/-- A value without parts. -/
inductive Scalar where
  | null
  | bool (b : Bool)
  | int (n : Int)
  | real (x : Binary64)
  | text (s : String)
  | bytes (b : List UInt8)
  | date (d : Date)
  | moment (m : Moment)
  deriving DecidableEq

/-- A value. -/
inductive Value where
  | scalar (s : Scalar)
  | list (items : List Value)
  | map (entries : List (Scalar × Value))
  | set (members : List Scalar)

namespace Scalar

/-- The integer that a number or a truth value equals. -/
def toInt? : Scalar → Option Int
  | .bool b => some (if b then 1 else 0)
  | .int n => some n
  | .real x => x.toInt?
  | _ => none

/-- Keys are the same when they are equal in value: `1`, `1.0` and `true` are one key, and so are the same
moment at two offsets. -/
def sameKey (a b : Scalar) : Bool :=
  match a.toInt?, b.toInt? with
  | some m, some n => m == n
  | none, none =>
    match a, b with
    | .real x, .real y => x.sameValue y
    | .moment x, .moment y => x.same y
    | _, _ => a == b
  | _, _ => false

end Scalar

namespace Value

/-- The null value. -/
def null : Value := .scalar .null

/-- A truth value. -/
def bool (b : Bool) : Value := .scalar (.bool b)

/-- An integer. -/
def int (n : Int) : Value := .scalar (.int n)

/-- A text. -/
def text (s : String) : Value := .scalar (.text s)

/-- A map from texts. -/
def object (fields : List (String × Value)) : Value :=
  .map (fields.map fun f => (.text f.1, f.2))

/-- The value of a key. -/
def lookup (key : Scalar) : List (Scalar × Value) → Option Value
  | [] => none
  | (k, v) :: rest => if k.sameKey key then some v else lookup key rest

/-- Sets the value of a key: in its place if the key is there, else at the end. -/
def insert (key : Scalar) (value : Value) : List (Scalar × Value) → List (Scalar × Value)
  | [] => [(key, value)]
  | (k, v) :: rest =>
    if k.sameKey key then (k, value) :: rest else (k, v) :: insert key value rest

/-- The value under a text key of a map, if the value is a map that has it. -/
def field? (v : Value) (name : String) : Option Value :=
  match v with
  | .map entries => lookup (.text name) entries
  | _ => none

/-- The word for the kind of a value. -/
def kindName : Value → String
  | .scalar .null => "empty document"
  | .scalar (.bool _) => "bool"
  | .scalar (.int _) => "int"
  | .scalar (.real _) => "float"
  | .scalar (.text _) => "str"
  | .scalar (.bytes _) => "bytes"
  | .scalar (.date _) => "date"
  | .scalar (.moment _) => "datetime"
  | .list _ => "list"
  | .map _ => "dict"
  | .set _ => "set"

mutual

/-- `base` updated by `update`: maps are updated key by key, all else is replaced. -/
def overlay (base : Value) : Value → Value
  | .map entries =>
    match base with
    | .map old => .map (overlayEntries old entries)
    | _ => .map entries
  | v => v

/-- The entries `old` updated by further entries, from first to last. -/
def overlayEntries (old : List (Scalar × Value)) : List (Scalar × Value) → List (Scalar × Value)
  | [] => old
  | (k, v) :: rest =>
    let merged :=
      match lookup k old with
      | some w => overlay w v
      | none => v
    overlayEntries (insert k merged old) rest

end

end Value

/-- The order in which a process goes through a set whose members were put in one after another. It may be
another one in every process, but each member has its turn once. -/
structure SetOrder where
  arrange : List Scalar → List Scalar := id
  perm : ∀ members, (arrange members).Perm members := by exact fun _ => .rfl

namespace Value

mutual

/-- A value with its sets in the order in which a process goes through them. -/
def arranged (order : SetOrder) : Value → Value
  | .scalar s => .scalar s
  | .list items => .list (arrangedItems order items)
  | .map entries => .map (arrangedEntries order entries)
  | .set members => .set (order.arrange members)

/-- Items with their sets in order. -/
def arrangedItems (order : SetOrder) : List Value → List Value
  | [] => []
  | v :: rest => arranged order v :: arrangedItems order rest

/-- The values of entries with their sets in order. -/
def arrangedEntries (order : SetOrder) : List (Scalar × Value) → List (Scalar × Value)
  | [] => []
  | (k, v) :: rest => (k, arranged order v) :: arrangedEntries order rest

end

end Value

end ScriptDoc
