import ScriptDoc.Source.Arguments

/-!
# Doc blocks

A doc block is the list of comment lines above a function declaration, without their marker.
Lines that start with a directive set a part of the record; a plain line continues the extended
description as long as no other directive has ended it.

* `Directive.ofLine` classifies a line;
* `functionName?` finds the name in a declaration;
* `FunctionRecord.ofBlock` reads a whole block.
-/

namespace ScriptDoc

open ScriptDoc.Text

/-- What a line of a doc block says. -/
inductive Directive where
  | shortDescription (text : String)
  | extendedDescription (text : String)
  | result (text : String)
  | arguments (text : String)
  | plain (text : String)
  deriving DecidableEq, Repr

namespace Directive

/-- What follows a tag at the front of a line, without blanks around it. -/
def content? (tag : String) (line : String) : Option String :=
  (tag.toList.isPrefixOf? line.toList).map fun rest => String.ofList (trim rest)

/-- A line by the first tag that it starts with. -/
def ofLine (line : String) : Directive :=
  match content? "@shortdesc" line with
  | some t => .shortDescription t
  | none =>
    match content? "@extdesc" line with
    | some t => .extendedDescription t
    | none =>
      match content? "@result" line with
      | some t => .result t
      | none =>
        match content? "@args" line with
        | some t => .arguments t
        | none => .plain line

end Directive

/-- The name between the first blank and the first opening parenthesis of a declaration. There is
none if one of them is missing, if the parenthesis comes first or if nothing stands between. -/
def functionName? (declaration : String) : Option String :=
  let cs := declaration.toList
  let head := cs.takeWhile (· != '(')
  if head.length == cs.length then none
  else
    let name := trim ((head.dropWhile (· != ' ')).drop 1)
    if name.isEmpty then none else some (String.ofList name)

/-- Why a doc block documents no function. -/
inductive BlockError where
  /-- The declaration has no name. -/
  | nameless (declaration : String)
  /-- An argument directive of the named function is blank. -/
  | badArguments (name : String) (content : String)
  deriving DecidableEq, Repr

/-- The words for an argument list that is blank. -/
def emptyArgumentsMessage : String := "empty arguments directive"

/-- The words for an error of a doc block. -/
def BlockError.message : BlockError → String
  | .nameless declaration =>
    "expected function name in declaration '" ++ trimmed declaration ++ "'"
  | .badArguments name content =>
    "failed to parse arguments directive '" ++ content ++ "' of " ++ name ++ ": "
      ++ emptyArgumentsMessage

namespace DocBlock

/-- A record in the making, and whether plain lines continue its extended description. -/
structure Draft where
  record : FunctionRecord
  continuing : Bool := false

/-- Adds what a directive says. -/
def step (d : Draft) : Directive → Except BlockError Draft
  | .shortDescription t => .ok ⟨{ d.record with shortDescription := some t }, false⟩
  | .extendedDescription t =>
    let more := if t.isEmpty then [] else [t]
    .ok ⟨{ d.record with extendedDescription := d.record.extendedDescription ++ more }, true⟩
  | .result t => .ok ⟨{ d.record with returnType := some t }, false⟩
  | .arguments t =>
    match ArgumentList.parse? t with
    | some ps => .ok ⟨{ d.record with parameters := d.record.parameters ++ ps }, false⟩
    | none => .error (.badArguments d.record.name t)
  | .plain t =>
    if d.continuing then
      .ok { d with
        record := { d.record with
          extendedDescription := d.record.extendedDescription ++ [t] } }
    else .ok d

end DocBlock

/-- The record of a declaration with a doc block above it. -/
def FunctionRecord.ofBlock (declaration : String) (block : List String) (origin : Option String) :
    Except BlockError FunctionRecord :=
  match functionName? declaration with
  | none => .error (.nameless declaration)
  | some name =>
    (block.foldlM (fun d line => DocBlock.step d (Directive.ofLine line))
      (⟨{ name, origin }, false⟩ : DocBlock.Draft)).map (·.record)

end ScriptDoc
