import ScriptDoc.Yaml.Tag

/-!
# The graph of a document

The nodes of a document are numbered, and a collection holds the numbers of its parts.  An alias gives
the number of the node that carries its anchor; so two collections may share a part, and a collection may
be a part of itself.
-/

namespace ScriptDoc.Yaml

/-- The number of a node. -/
abbrev NodeId := Nat

/-- What stands at a node. -/
inductive NodeContent where
  | scalar (text : String)
  | sequence (items : List NodeId)
  | mapping (entries : List (NodeId × NodeId))
  deriving DecidableEq, Repr

/-- A node of a document. -/
structure Node where
  tag : Tag
  content : NodeContent
  deriving DecidableEq, Repr

/-- The node where nothing is written. -/
def Node.empty : Node := ⟨.null, .scalar ""⟩

/-- The nodes of a document by their numbers. -/
structure Graph where
  nodes : Array Node := #[]

namespace Graph

/-- The node of a number. -/
def node (g : Graph) (n : NodeId) : Node := g.nodes.getD n .empty

/-- Adds a node, which gets the next number. -/
def add (x : Node) (g : Graph) : NodeId × Graph := (g.nodes.size, { nodes := g.nodes.push x })

/-- Changes the node of a number. -/
def update (n : NodeId) (f : Node → Node) (g : Graph) : Graph := { nodes := g.nodes.modify n f }

/-- Gives a node another tag. -/
def retag (g : Graph) (n : NodeId) (tag : Tag) : Graph := g.update n fun x => { x with tag }

/-- The entries of a mapping. -/
def entries (g : Graph) (n : NodeId) : List (NodeId × NodeId) :=
  match (g.node n).content with
  | .mapping entries => entries
  | _ => []

/-- Gives a mapping other entries. -/
def setEntries (n : NodeId) (entries : List (NodeId × NodeId)) (g : Graph) : Graph :=
  g.update n fun x => { x with content := .mapping entries }

/-- Whether an entry has the merge key. -/
def isMerge (g : Graph) (entry : NodeId × NodeId) : Bool := (g.node entry.1).tag == .merge

/-- How many entries have the merge key. -/
def mergeCount (g : Graph) : Nat :=
  g.nodes.foldl (fun n x =>
    match x.content with
    | .mapping entries => n + entries.countP g.isMerge
    | _ => n) 0

end Graph

end ScriptDoc.Yaml
