import ScriptDoc.Document.Record
import ScriptDoc.Text.Blank

/-!
# Argument lists

The text of an argument directive lists parameters, separated by commas: a type and a name, a type
alone, or an ellipsis.  Parameters after the first opening bracket are optional:

    Real xpos, Real zpos[, Real ypos]

A type alone gets the name `argN`, where `N` is its position in the whole list; blank entries count
for the position and are otherwise passed over.  The only text without a reading is a blank one.
-/

namespace ScriptDoc

open ScriptDoc.Text

namespace ArgumentList

/-- The two sections of an argument list. -/
structure Sections where
  mandatory : List Char
  optional : List Char
  deriving DecidableEq

/-- Drops one comma at the end. -/
def dropLastComma (cs : List Char) : List Char :=
  if cs.getLast? == some ',' then cs.dropLast else cs

/-- Drops one comma at the front. -/
def dropFirstComma : List Char → List Char
  | ',' :: cs => cs
  | cs => cs

/-- Cuts a text at the first opening bracket. One comma on each side of the bracket and the closing
brackets at the end belong to neither section. -/
def sections (cs : List Char) : Sections :=
  match cs.dropWhile (· != '[') with
  | [] => ⟨cs, []⟩
  | _ :: after =>
    ⟨dropLastComma (trimRight isBlank (cs.takeWhile (· != '['))),
      dropFirstComma (trimRight (· == ']') after)⟩

/-- The entries of a section, without blanks around them. A blank section has none. -/
def entries (part : List Char) : List (List Char) :=
  if part.all isBlank then [] else (part.splitOn ',').map trim

/-- The parameter of an entry at a position, if the entry is not blank. -/
def parameter? (required : Bool) (position : Nat) (entry : List Char) : Option Parameter :=
  if entry.isEmpty then none
  else
    match entry.dropWhile (· != ' ') with
    | _ :: name =>
      some { name := String.ofList name, typeName := String.ofList (entry.takeWhile (· != ' ')),
             required }
    | [] =>
      if entry == "...".toList then some { name := "...", typeName := "Any", required }
      else some { name := "arg" ++ toString position, typeName := String.ofList entry, required }

/-- The parameters of entries whose positions start at `start`. -/
def parameters (required : Bool) (start : Nat) (es : List (List Char)) : List Parameter :=
  (es.zipIdx start).filterMap fun e => parameter? required e.2 e.1

/-- The parameters of an argument list that is not blank. -/
def parse? (text : String) : Option (List Parameter) :=
  if allBlank text then none
  else
    let s := sections text.toList
    let mandatory := entries s.mandatory
    some (parameters true 1 mandatory
      ++ parameters false (mandatory.length + 1) (entries s.optional))

/-- Exactly the blank texts have no reading. -/
theorem parse?_eq_none_iff (text : String) :
    parse? text = none ↔ ∀ c ∈ text.toList, isBlank c = true := by
  unfold parse? allBlank
  split <;> simp_all

end ArgumentList

end ScriptDoc
