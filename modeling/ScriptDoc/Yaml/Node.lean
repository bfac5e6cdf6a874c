import ScriptDoc.Yaml.Graph
import ScriptDoc.Yaml.Token

/-!
# From tokens to nodes

`document` reads the graph of the only document of a text from its tokens.  A collection gets its number
before its parts are read, so an alias may lead back to a collection that is still open.
-/

namespace ScriptDoc.Yaml

/-- The tokens that are left, the nodes so far, and those of them that have anchors. -/
structure Progress where
  tokens : List Token
  /-- What comes after the last token, if not the end of the text. -/
  failure : Option Error := none
  graph : Graph := {}
  anchors : List (String × NodeId) := []

/-- A reader of nodes. -/
abbrev NodeReader (α : Type) := StateT Progress (Except Error) α

namespace NodeReader

/-- Stops with a flaw. -/
def flaw {α : Type} (f : Flaw) : NodeReader α := fun _ => .error (.malformed f)

/-- The next token; there is none at the end of the text. -/
def peek : NodeReader (Option Token) := fun s =>
  match s.tokens, s.failure with
  | t :: _, _ => .ok (some t, s)
  | [], some e => .error e
  | [], none => .ok (none, s)

/-- Goes past the next token. -/
def advance : NodeReader Unit := modify fun s => { s with tokens := s.tokens.drop 1 }

/-- The node that an alias stands for. -/
def aliased (name : String) : NodeReader NodeId := do
  match (← get).anchors.lookup name with
  | some n => return n
  | none => flaw (.undefinedAlias name)

/-- Adds a node and ties its anchor to it. -/
def newNode (anchor : Option String) (x : Node) : NodeReader NodeId := fun s =>
  let (n, graph) := s.graph.add x
  let anchors := (anchor.map (·, n)).toList ++ s.anchors
  .ok (n, { s with graph, anchors })

/-- The node where nothing is written. -/
def emptyNode : NodeReader NodeId := newNode none .empty

/-- Gives an open collection its content. -/
def close (n : NodeId) (content : NodeContent) : NodeReader NodeId := do
  modify fun s => { s with graph := s.graph.update n fun x => { x with content } }
  return n

/-- An anchor may be used once. -/
def checkAnchor (anchor : Option String) : NodeReader Unit := do
  match anchor with
  | none => return
  | some name =>
    if ((← get).anchors.lookup name).isSome then flaw (.repeatedAnchor name)

end NodeReader

/-- What may stand before the content of a node: an anchor, and the full name of a tag. -/
structure Properties where
  anchor : Option String := none
  tag : Option String := none
  deriving DecidableEq, Repr

namespace Properties

/-- Whether nothing stands before a node. -/
def isEmpty (p : Properties) : Bool := p.anchor.isNone && p.tag.isNone

/-- The tag of a scalar: the text decides if there is no tag and it is plain, or if the tag is a mere
exclamation mark. -/
def scalarTag (p : Properties) (plain : Bool) (text : String) : Tag :=
  match p.tag with
  | none => if plain then implicitTag text else .str
  | some uri => if uri == "!" then implicitTag text else .ofUri uri

/-- The tag of a collection, which has a default. -/
def collectionTag (p : Properties) (usual : Tag) : Tag :=
  match p.tag with
  | none => usual
  | some uri => if uri == "!" then usual else .ofUri uri

end Properties

/-- The expansions of tag handles. -/
abbrev Handles := List (String × String)

/-- The handles that need no directive. -/
def defaultHandles : Handles := [("!", "!"), ("!!", tagSpace)]

/-- What holds where a node is read: the handles of the document, and how much deeper collections may be
nested. -/
structure Surround where
  handles : Handles
  room : Nat

namespace NodeReader

/-- What holds for the parts of a collection. -/
def inside (s : Surround) : NodeReader Surround :=
  match s.room with
  | 0 => throw .tooDeep
  | room + 1 => return { s with room }

/-- The full name of a tag. -/
def fullTag (handles : Handles) (handle : Option String) (suffix : String) : NodeReader String :=
  match handle with
  | none => return suffix
  | some h =>
    match handles.lookup h with
    | some expansion => return expansion ++ suffix
    | none => flaw (.undefinedHandle h)

/-- The anchor at the front, if there is one. -/
def anchor? : NodeReader (Option String) := do
  match ← peek with
  | some (.anchor name) =>
    advance
    return some name
  | _ => return none

/-- The handle and suffix of the tag at the front, if there is one. -/
def tag? : NodeReader (Option (Option String × String)) := do
  match ← peek with
  | some (.tag handle suffix) =>
    advance
    return some (handle, suffix)
  | _ => return none

/-- An anchor and a tag in either order. -/
def properties (handles : Handles) : NodeReader Properties := do
  let first ← anchor?
  let tag ← tag?
  let anchor ← if first.isSome || tag.isNone then pure first else anchor?
  return ⟨anchor, ← tag.mapM fun t => fullTag handles t.1 t.2⟩

/-- Opens a sequence. -/
def openSequence (p : Properties) : NodeReader NodeId :=
  newNode p.anchor ⟨p.collectionTag .seq, .sequence []⟩

/-- Opens a mapping. -/
def openMapping (p : Properties) : NodeReader NodeId :=
  newNode p.anchor ⟨p.collectionTag .map, .mapping []⟩

/-- The tokens before which a node is left out. -/
def leftOut (ends : List Token) : NodeReader Bool := return (← peek).any ends.contains

/-- A node of which only the properties are written. -/
def emptyContent (p : Properties) : NodeReader NodeId :=
  if p.isEmpty then flaw .nodeExpected
  else newNode p.anchor ⟨p.scalarTag true "", .scalar ""⟩

/-- A comma between the items of a flow collection. -/
def comma : NodeReader Unit := do
  if (← peek) == some .flowEntry then advance else flaw .commaExpected

mutual

/-- A node. Block collections are allowed if `block` is set, and sequences that are not indented if
`indentless` is. -/
def node (s : Surround) (block indentless : Bool) : Nat → NodeReader NodeId
  | 0 => flaw .nodeExpected
  | fuel + 1 => do
    match ← peek with
    | some (.alias name) =>
      advance
      aliased name
    | _ =>
      let p ← properties s.handles
      content s block indentless p fuel

/-- The content of a node after its properties. -/
def content (s : Surround) (block indentless : Bool) (p : Properties) : Nat → NodeReader NodeId
  | 0 => flaw .nodeExpected
  | fuel + 1 => do
    let first ← peek
    checkAnchor p.anchor
    match first with
    | some (.scalar text plain) =>
      advance
      newNode p.anchor ⟨p.scalarTag plain text, .scalar text⟩
    | some .flowSequenceStart =>
      advance
      let n ← openSequence p
      close n (.sequence (← flowItems (← inside s) true fuel))
    | some .flowMappingStart =>
      advance
      let n ← openMapping p
      close n (.mapping (← flowEntries (← inside s) true fuel))
    | some .blockEntry =>
      if indentless then
        let n ← openSequence p
        close n (.sequence (← indentlessItems (← inside s) fuel))
      else emptyContent p
    | some .blockSequenceStart =>
      if block then
        advance
        let n ← openSequence p
        close n (.sequence (← blockItems (← inside s) fuel))
      else emptyContent p
    | some .blockMappingStart =>
      if block then
        advance
        let n ← openMapping p
        close n (.mapping (← blockEntries (← inside s) fuel))
      else emptyContent p
    | _ => emptyContent p

/-- A node, or the empty node before certain tokens. -/
def nodeUnless (s : Surround) (block indentless : Bool) (ends : List Token) :
    Nat → NodeReader NodeId
  | 0 => flaw .nodeExpected
  | fuel + 1 => do
    if ← leftOut ends then emptyNode else node s block indentless fuel

/-- The items of a block sequence, with its end. -/
def blockItems (s : Surround) : Nat → NodeReader (List NodeId)
  | 0 => flaw .blockEndExpected
  | fuel + 1 => do
    match ← peek with
    | some .blockEntry =>
      advance
      let item ← nodeUnless s true false [.blockEntry, .blockEnd] fuel
      return item :: (← blockItems s fuel)
    | some .blockEnd =>
      advance
      return []
    | _ => flaw .blockEndExpected

/-- The items of a sequence that is not indented further than the mapping around it. -/
def indentlessItems (s : Surround) : Nat → NodeReader (List NodeId)
  | 0 => flaw .blockEndExpected
  | fuel + 1 => do
    match ← peek with
    | some .blockEntry =>
      advance
      let item ← nodeUnless s true false [.blockEntry, .key, .value, .blockEnd] fuel
      return item :: (← indentlessItems s fuel)
    | _ => return []

/-- The value of an entry, which may be left out with its colon. -/
def entryValue (s : Surround) (block : Bool) (ends : List Token) : Nat → NodeReader NodeId
  | 0 => flaw .nodeExpected
  | fuel + 1 => do
    match ← peek with
    | some .value =>
      advance
      nodeUnless s block block ends fuel
    | _ => emptyNode

/-- The entries of a block mapping, with its end. -/
def blockEntries (s : Surround) : Nat → NodeReader (List (NodeId × NodeId))
  | 0 => flaw .blockEndExpected
  | fuel + 1 => do
    match ← peek with
    | some .key =>
      advance
      let key ← nodeUnless s true true [.key, .value, .blockEnd] fuel
      let value ← entryValue s true [.key, .value, .blockEnd] fuel
      return (key, value) :: (← blockEntries s fuel)
    | some .blockEnd =>
      advance
      return []
    | _ => flaw .blockEndExpected

/-- The items of a flow sequence, with its end. A key among them makes a mapping of one entry. -/
def flowItems (s : Surround) (first : Bool) : Nat → NodeReader (List NodeId)
  | 0 => flaw .commaExpected
  | fuel + 1 => do
    if (← peek) == some .flowSequenceEnd then
      advance
      return []
    if !first then comma
    match ← peek with
    | some .flowSequenceEnd =>
      advance
      return []
    | some .key =>
      advance
      let n ← openMapping {}
      let within ← inside s
      let key ← nodeUnless within false false [.value, .flowEntry, .flowSequenceEnd] fuel
      let value ← entryValue within false [.flowEntry, .flowSequenceEnd] fuel
      let item ← close n (.mapping [(key, value)])
      return item :: (← flowItems s false fuel)
    | _ =>
      let item ← node s false false fuel
      return item :: (← flowItems s false fuel)

/-- The entries of a flow mapping, with its end. -/
def flowEntries (s : Surround) (first : Bool) : Nat → NodeReader (List (NodeId × NodeId))
  | 0 => flaw .commaExpected
  | fuel + 1 => do
    if (← peek) == some .flowMappingEnd then
      advance
      return []
    if !first then comma
    match ← peek with
    | some .flowMappingEnd =>
      advance
      return []
    | some .key =>
      advance
      let key ← nodeUnless s false false [.value, .flowEntry, .flowMappingEnd] fuel
      let value ← entryValue s false [.flowEntry, .flowMappingEnd] fuel
      return (key, value) :: (← flowEntries s false fuel)
    | _ =>
      let key ← node s false false fuel
      let value ← emptyNode
      return (key, value) :: (← flowEntries s false fuel)

end

/-- Takes in a directive: the handles so far, and whether a version has been given. -/
def applyDirective (seen : Handles × Bool) : Directive → NodeReader (Handles × Bool)
  | .version major _ =>
    if seen.2 then flaw .repeatedDirective
    else if major != 1 then flaw .wrongVersion
    else return (seen.1, true)
  | .tagHandle handle expansion =>
    if (seen.1.lookup handle).isSome then flaw .repeatedDirective
    else return (seen.1 ++ [(handle, expansion)], seen.2)
  | .other _ => return seen

/-- The handles that the directives at the front define. -/
def directives (seen : Handles × Bool) : Nat → NodeReader Handles
  | 0 => return seen.1
  | fuel + 1 => do
    match ← peek with
    | some (.directive d) =>
      advance
      directives (← applyDirective seen d) fuel
    | _ => return seen.1

/-- The handles for a document that starts with directives and its mark. -/
def documentHead : NodeReader Handles := do
  let handles ← directives ([], false) (← get).tokens.length
  if (← peek) == some .documentStart then
    advance
    return handles ++ defaultHandles
  else flaw .documentStartExpected

/-- Whether a document ends before a token. -/
def endsDocument : Option Token → Bool
  | none => true
  | some (.directive _) => true
  | some .documentStart => true
  | some .documentEnd => true
  | _ => false

/-- The root of a document after its head. Between two tokens at most four readers are entered, one within
the other. -/
def root (room : Nat) (handles : Handles) : NodeReader NodeId := do
  node { handles, room } true false (4 * (← get).tokens.length + 4)

/-- The root of the document at the front. A document that starts by its mark may be empty. -/
def documentRoot (room : Nat) (first : Token) : NodeReader NodeId := do
  match first with
  | .directive _ | .documentStart =>
    let handles ← documentHead
    if endsDocument (← peek) then emptyNode else root room handles
  | _ => root room defaultHandles

/-- Goes past marks of a document's end. -/
def skipEnds : Nat → NodeReader Unit
  | 0 => return
  | fuel + 1 => do
    if (← peek) == some .documentEnd then
      advance
      skipEnds fuel

/-- The root of the only document of a text; there may be none. -/
def onlyRoot (room : Nat) : NodeReader (Option NodeId) := do
  match ← peek with
  | none => return none
  | some first =>
    let n ← documentRoot room first
    skipEnds (← get).tokens.length
    if (← peek).isNone then return some n
    let _ ← documentHead
    flaw .severalDocuments

end NodeReader

/-- The graph of the only document of a text, and its root; there may be no document. Collections are nested
in `room` levels at most. -/
def document (room : Nat) (s : TokenStream) : Except Error (Option (Graph × NodeId)) := do
  let (n, after) ← NodeReader.onlyRoot room { tokens := s.tokens, failure := s.failure }
  return n.map (after.graph, ·)

end ScriptDoc.Yaml
