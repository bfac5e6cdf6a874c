import ScriptDoc.Document.Record
import ScriptDoc.Text.Word

/-!
# Entries of a dump

* `GlobalRecord.ofLine?` reads `name=value`;
* `EncodedMember.ofLine?` finds the first encoded enum member `MEMBER[...]=Enum(3)` in a line: a
  word, perhaps a bracketed text, an equals sign, a word, and digits in parentheses;
* `EnumRecord.group` gathers members by enum.
-/

namespace ScriptDoc

open ScriptDoc.Text

/-- A line `name=value`; the value may hold further equals signs. -/
def GlobalRecord.ofLine? (line : String) : Option GlobalRecord :=
  let cs := line.toList
  match cs.dropWhile (· != '=') with
  | [] => none
  | _ :: value =>
    some { name := String.ofList (cs.takeWhile (· != '=')), value := some (String.ofList value) }

/-- An enum member as a dump encodes it. -/
structure EncodedMember where
  member : String
  enumName : String
  number : String
  deriving DecidableEq, Repr

namespace EncodedMember

/-- Reads `=Enum(3)` at the front: the enum and the number. -/
def target? (cs : List Char) : Option (String × String) :=
  match cs with
  | '=' :: r =>
    let name := r.takeWhile isWordChar
    match r.dropWhile isWordChar with
    | '(' :: q =>
      let digits := q.takeWhile isDecimalDigit
      match q.dropWhile isDecimalDigit with
      | ')' :: _ =>
        if name.isEmpty || digits.isEmpty then none
        else some (String.ofList name, String.ofList digits)
      | _ => none
    | _ => none
  | _ => none

/-- The target after the first closing bracket that one follows; the brackets are on one line. -/
def bracketedTarget? : List Char → Option (String × String)
  | [] => none
  | c :: cs =>
    if c == '\n' then none
    else if c == ']' then
      match target? cs with
      | some t => some t
      | none => bracketedTarget? cs
    else bracketedTarget? cs

/-- The target at the front, after a bracketed text if there is one. -/
def tail? (cs : List Char) : Option (String × String) :=
  match cs with
  | '[' :: r => bracketedTarget? r
  | _ => target? cs

/-- The encoded member at the front. -/
def front? (cs : List Char) : Option EncodedMember :=
  let word := cs.takeWhile isWordChar
  if word.isEmpty then none
  else (tail? (cs.dropWhile isWordChar)).map fun t => ⟨String.ofList word, t.1, t.2⟩

/-- The first encoded member. -/
def search? : List Char → Option EncodedMember
  | [] => none
  | c :: cs =>
    match front? (c :: cs) with
    | some m => some m
    | none => search? cs

/-- The first encoded member of a line. -/
def ofLine? (line : String) : Option EncodedMember := search? line.toList

/-- The enum that a member belongs to, and the member itself. -/
def placed (m : EncodedMember) : String × EnumMember := (m.enumName, ⟨m.member, some m.number⟩)

end EncodedMember

/-- The members of one enum; the first of them is repeated unless `dedupe` is set. -/
def EnumRecord.membersFor (dedupe : Bool) (entries : List (String × EnumMember)) (name : String) :
    List EnumMember :=
  match (entries.filter (·.1 == name)).map (·.2) with
  | [] => []
  | m :: ms => if dedupe then m :: ms else m :: m :: ms

/-- Gathers members by the enums that they belong to, in the order of the first members. -/
def EnumRecord.group (dedupe : Bool) (entries : List (String × EnumMember)) : List EnumRecord :=
  (entries.map (·.1)).eraseDups.map fun name => ⟨name, membersFor dedupe entries name⟩

end ScriptDoc
