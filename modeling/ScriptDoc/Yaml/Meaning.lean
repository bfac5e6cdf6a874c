import ScriptDoc.Data.Value
import ScriptDoc.Text.Base64
import ScriptDoc.Text.Lowercase
import ScriptDoc.Yaml.Graph
import ScriptDoc.Yaml.Scalar.Number
import ScriptDoc.Yaml.Scalar.Timestamp

/-!
# What nodes mean

`Graph.meaning` gives the value of a node.  It goes through the graph in breadth: a scalar gets its value
when it is first met, while a collection is put in a queue and filled in its turn, so that each node gets
one `Part`.  A key with the merge tag takes the entries of other mappings in, before the mapping's own
entries, which win over them; this changes the graph, for every place where the mapping is used.

The value of a node is then the unfolding of its part.  A collection that is a part of itself would be
endless; its unfolding is cut off at a depth that no reader of documents goes to.
-/

namespace ScriptDoc.Yaml

open ScriptDoc.Text

/-- The words for truth values, in lower case. -/
def truthValue? (s : String) : Option Bool :=
  [("yes", true), ("no", false), ("true", true), ("false", false), ("on", true),
    ("off", false)].lookup (lowered s)

/-- The value of a text under a tag for scalars. -/
def scalarValue (tag : Tag) (text : String) : Except Error Scalar :=
  match tag with
  | .null => .ok .null
  | .bool =>
    match truthValue? text with
    | some b => .ok (.bool b)
    | none => .error .unknownTruthValue
  | .int => (integerValue text).map .int
  | .float => (floatValue text).map .real
  | .binary =>
    if text.toList.all fun c => c.toNat < 128 then
      match Base64.decode text.toList with
      | some bytes => .ok (.bytes bytes)
      | none => .error (.malformed .badBinary)
    else .error (.malformed .badBinary)
  | .timestamp => timestampValue text
  | .str => .ok (.text text)
  | _ => .error (.malformed .unknownTag)

/-- The collections that a tag asks for. -/
inductive Shape where
  | list
  | map
  | set
  | pairs
  | scalar
  | unknown
  deriving DecidableEq, Repr

/-- The collection that a tag asks for. -/
def Tag.shape : Tag → Shape
  | .seq => .list
  | .map => .map
  | .set => .set
  | .orderedMap => .pairs
  | .pairs => .pairs
  | .merge => .unknown
  | .default => .unknown
  | .unknown _ => .unknown
  | _ => .scalar

/-- What is known of the value of a node. -/
inductive Part where
  /-- A collection that waits to be filled. -/
  | waiting
  | scalar (s : Scalar)
  | list (items : List NodeId)
  | pairs (items : List (NodeId × NodeId))
  | map (entries : List (Scalar × NodeId))
  | set (members : List Scalar)

/-- What is known while a graph gets its meaning. -/
structure Construction where
  graph : Graph
  parts : Array (Option Part)
  /-- The collections that wait to be filled, last one first. -/
  queue : List NodeId
  /-- How many entries with the merge key there were at first. -/
  merges : Nat
  /-- How many default values may lead to one another. -/
  defaults : Nat

/-- A step of a construction. -/
abbrev Construct (α : Type) := StateT Construction (Except Error) α

namespace Construct

/-- Stops with a flaw. -/
def flaw {α : Type} (f : Flaw) : Construct α := fun _ => .error (.malformed f)

/-- The node of a number. -/
def node (n : NodeId) : Construct Node := return (← get).graph.node n

/-- Changes the graph. -/
def change (f : Graph → Graph) : Construct Unit := modify fun s => { s with graph := f s.graph }

/-- What is known of the value of a node. -/
def part? (n : NodeId) : Construct (Option Part) := return ((← get).parts.getD n none)

/-- Notes what is known of the value of a node. -/
def setPart (n : NodeId) (p : Part) : Construct Unit :=
  modify fun s => { s with parts := s.parts.setIfInBounds n (some p) }

/-- The text of a scalar. A mapping has the text of its default value. -/
def scalarText : Nat → NodeId → Construct String
  | 0, _ => throw .tooDeep
  | fuel + 1, n => do
    match (← node n).content with
    | .scalar text => return text
    | .sequence _ => flaw .wrongKind
    | .mapping entries =>
      let g := (← get).graph
      match entries.find? fun e => (g.node e.1).tag == .default with
      | some (_, v) => scalarText fuel v
      | none => flaw .wrongKind

/-- The value of a node that is tagged as a scalar. -/
def scalarOf (n : NodeId) : Construct Scalar := do
  let text ← scalarText (← get).defaults n
  match ← node n with
  | ⟨.timestamp, .mapping _⟩ => throw .dateFromMapping
  | x => liftM (scalarValue x.tag text)

/-- Meets a node: a scalar gets its value, and a collection is put in the queue. -/
def visit (n : NodeId) : Construct Unit := do
  if (← part? n).isNone then
    match (← node n).tag.shape with
    | .scalar => setPart n (.scalar (← scalarOf n))
    | .unknown => flaw .unknownTag
    | _ =>
      setPart n .waiting
      modify fun s => { s with queue := n :: s.queue }

/-- The entries of a mapping, by the numbers of their nodes. -/
abbrev Entries := List (NodeId × NodeId)

/-- The nodes from which a merge key takes entries: a mapping, or those of a sequence. -/
def mergedNodes (n : NodeId) : Construct (List NodeId) := do
  match (← node n).content with
  | .mapping _ => return [n]
  | .sequence items => return items
  | .scalar _ => flaw .badMerge

/-- Only entries of mappings are taken in. -/
def requireMapping (n : NodeId) : Construct Unit := do
  match (← node n).content with
  | .mapping _ => return
  | _ => flaw .badMerge

/-- Puts entries before those of a mapping, and makes the keys of default values ordinary texts. -/
def takeIn (n : NodeId) (taken : Entries) : Construct Entries := do
  let entries := taken ++ (← get).graph.entries n
  change fun g =>
    entries.foldl (fun g e => if (g.node e.1).tag == .default then g.retag e.1 .str else g)
      (g.setEntries n entries)
  return entries

/-- The entries that a mapping takes in, while its entries with the merge key are removed; `fuel` is how
many of those the graph has. Of several mappings under one key the first one wins, so it comes last. -/
def takenEntries : Nat → NodeId → Construct Entries
  | 0, _ => return []
  | fuel + 1, n => do
    let g := (← get).graph
    match (g.entries n).find? g.isMerge with
    | none => return []
    | some entry =>
      change fun g => g.setEntries n ((g.entries n).eraseP g.isMerge)
      let taken ← (← mergedNodes entry.2).mapM fun m => do
        requireMapping m
        takeIn m (← takenEntries fuel m)
      return taken.reverse.flatten ++ (← takenEntries fuel n)

/-- The entries of a mapping with those that it takes in. -/
def allEntries (n : NodeId) : Construct Entries := do takeIn n (← takenEntries (← get).merges n)

/-- A key. A number that is no number differs from every other one, unless both are the constant; so a key
also has the node it comes from, except for that constant. -/
structure Key where
  scalar : Scalar
  node : Option NodeId
  deriving DecidableEq

/-- Whether two keys are the same key. -/
def Key.same (a b : Key) : Bool :=
  a.scalar.sameKey b.scalar || (a == b && a.scalar == .real .nan)

/-- The key at a node, which has to be a scalar. -/
def keyAt (n : NodeId) : Construct Key := do
  visit n
  match ← part? n with
  | some (.scalar s) =>
    let constant := isNanWord (← scalarText (← get).defaults n)
    return ⟨s, if constant then none else some n⟩
  | _ => flaw .collectionAsKey

/-- Sets the value of a key: in its place if the key is there, else at the end. -/
def setEntry (key : Key) (value : NodeId) : List (Key × NodeId) → List (Key × NodeId)
  | [] => [(key, value)]
  | (k, v) :: rest => if k.same key then (k, value) :: rest else (k, v) :: setEntry key value rest

/-- The entries of a mapping by their keys, the last one of a key winning. -/
def keyedEntries (n : NodeId) : Construct (List (Scalar × NodeId)) := do
  let step (found : List (Key × NodeId)) (e : NodeId × NodeId) : Construct (List (Key × NodeId)) := do
    let key ← keyAt e.1
    visit e.2
    return setEntry key e.2 found
  let found ← (← allEntries n).foldlM step []
  return found.map fun e => (e.1.scalar, e.2)

/-- The pair of a mapping that has one entry. -/
def pairAt (n : NodeId) : Construct (NodeId × NodeId) := do
  match (← node n).content with
  | .mapping [(k, v)] =>
    visit k
    visit v
    return (k, v)
  | _ => flaw .wrongKind

/-- Fills a collection. -/
def fill (n : NodeId) : Construct Unit := do
  let x ← node n
  match x.tag.shape, x.content with
  | .list, .sequence items =>
    items.forM visit
    setPart n (.list items)
  | .pairs, .sequence items => setPart n (.pairs (← items.mapM pairAt))
  | .map, .mapping _ => setPart n (.map (← keyedEntries n))
  | .set, .mapping _ => setPart n (.set ((← keyedEntries n).map (·.1)))
  | _, _ => flaw .wrongKind

/-- Fills the collections of the queue, and those that are met by that, in at most `fuel` rounds. -/
def fillQueue : Nat → Construct Unit
  | 0 => return
  | fuel + 1 => do
    let queue := (← get).queue.reverse
    if queue.isEmpty then return
    modify fun s => { s with queue := [] }
    queue.forM fill
    fillQueue fuel

end Construct

/-- The parts of a node and of all that it leads to. Every round fills at least one node. -/
def Graph.parts (g : Graph) (defaults : Nat) (root : NodeId) : Except Error (Array (Option Part)) := do
  let size := g.nodes.size
  let start : Construction := ⟨g, Array.replicate size none, [], g.mergeCount, defaults⟩
  let (_, after) ← (do Construct.visit root; Construct.fillQueue (size + 1) : Construct Unit) start
  return after.parts

/-- The value of a document. That of an endless one is cut off at some depth. -/
structure Meaning where
  value : Value
  endless : Bool

/-- The meaning of a node of which nothing is known yet. -/
def Meaning.unknown : Meaning := ⟨.null, true⟩

namespace Part

/-- The nodes that a part leads to. -/
def nodes : Part → List NodeId
  | .waiting => []
  | .scalar _ => []
  | .list items => items
  | .pairs items => items.flatMap fun e => [e.1, e.2]
  | .map entries => entries.map (·.2)
  | .set _ => []

/-- The value of a part, if those of the nodes it leads to are known. -/
def value (known : NodeId → Value) : Part → Value
  | .waiting => .null
  | .scalar s => .scalar s
  | .list items => .list (items.map known)
  | .pairs items => .list (items.map fun e => .list [known e.1, known e.2])
  | .map entries => .map (entries.map fun e => (e.1, known e.2))
  | .set members => .set members

/-- The meaning of a part by those of the nodes it leads to. -/
def meaning (known : Array Meaning) (p : Part) : Meaning :=
  ⟨p.value fun n => (known.getD n .unknown).value,
    p.nodes.any fun n => (known.getD n .unknown).endless⟩

end Part

/-- Unfolds all parts once, from the last node to the first. -/
def unfoldParts (parts : Array (Option Part)) (known : Array Meaning) : Array Meaning :=
  (List.range parts.size).reverse.foldl
    (fun known n =>
      match parts.getD n none with
      | some p => known.setIfInBounds n (p.meaning known)
      | none => known)
    known

/-- How many steps lead from a node to itself or to one before it. -/
def stepsBack (parts : Array (Option Part)) : Nat :=
  (List.range parts.size).foldl
    (fun count n =>
      match parts.getD n none with
      | some p => count + p.nodes.countP (· ≤ n)
      | none => count)
    0

/-- A depth to which no reader of documents goes. -/
def cutDepth : Nat := 16

/-- The value of a node. Where no collection is a part of itself, a way through the graph takes each step
back once at most, and one unfolding of all parts reaches from one such step to the next. -/
def Graph.meaning (g : Graph) (defaults : Nat) (root : NodeId) : Except Error Meaning := do
  let parts ← g.parts defaults root
  let rounds := stepsBack parts + 1 + cutDepth
  let known := Nat.repeat (unfoldParts parts) rounds (Array.replicate parts.size .unknown)
  return known.getD root .unknown

end ScriptDoc.Yaml
