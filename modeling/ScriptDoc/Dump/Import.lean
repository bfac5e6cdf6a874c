import ScriptDoc.Document.Merge
import ScriptDoc.Dump.Entry
import ScriptDoc.Text.Lines
import ScriptDoc.Text.Lowercase
import ScriptDoc.Text.Blank

/-!
# Importing a dump

A dump is a list of lines in sections.  A section starts at its marker line, which is known in any
letter case, and may come back later.  Blank lines count for nothing; any other line before the
first marker is an error.

`Dump.contents` gives the lines of all sections, `Dump.parse` the document.
-/

namespace ScriptDoc

open ScriptDoc.Text

namespace Dump

/-- The sections of a dump. -/
inductive Section where
  | functions
  | globals
  | unknowns
  deriving DecidableEq, Repr

/-- The section that a line without blanks around it opens. -/
def marker? (stripped : String) : Option Section :=
  let line := lowered stripped
  if line == "[scardoc:functions]" then some .functions
  else if line == "[scardoc:globals]" then some .globals
  else if line == "[scardoc:unknowns]" then some .unknowns
  else none

/-- A line with the section that it stands in. -/
structure Line where
  place : Section
  text : String
  deriving DecidableEq, Repr

/-- The lines within sections, where `current` is the open section and `number` the position of the
first line. The error is the position of a line that stands in no section. -/
def contentsFrom (current : Option Section) (number : Nat) : List String → Except Nat (List Line)
  | [] => .ok []
  | raw :: rest =>
    let line := chomp raw
    let stripped := trimmed line
    if stripped.isEmpty then contentsFrom current (number + 1) rest
    else
      match marker? stripped with
      | some s => contentsFrom (some s) (number + 1) rest
      | none =>
        match current with
        | none => .error number
        | some s => (contentsFrom current (number + 1) rest).map (⟨s, line⟩ :: ·)

/-- The lines within the sections of a dump. -/
def contents (lines : List String) : Except Nat (List Line) := contentsFrom none 1 lines

/-- The lines of one section. -/
def linesOf (s : Section) (ls : List Line) : List String :=
  (ls.filter (·.place == s)).map (·.text)

/-- The functions that a dump names, each once. -/
def functions (ls : List Line) : List FunctionRecord :=
  firstNamed ((linesOf .functions ls).map fun line => { name := trimmed line })

/-- The globals that a dump defines, each with its last value. -/
def globals (ls : List Line) : List GlobalRecord :=
  lastNamed ((linesOf .globals ls).filterMap GlobalRecord.ofLine?)

/-- The enum members that a dump encodes. -/
def encodedMembers (ls : List Line) : List EncodedMember :=
  (linesOf .unknowns ls).filterMap EncodedMember.ofLine?

/-- The document of the lines within sections. -/
def document (dedupe : Bool) (ls : List Line) : Document :=
  { categories := categorize (functions ls)
    enums := EnumRecord.group dedupe ((encodedMembers ls).map EncodedMember.placed)
    globals := globals ls }

/-- What is reported of the lines within sections. -/
def notice (ls : List Line) : Notice :=
  .imported (functions ls).length (globals ls).length (encodedMembers ls).length

/-- Reads a dump. The error is the position of a line that stands in no section. -/
def parse (dedupe : Bool) (lines : List String) : Except Nat (Document × List Notice) :=
  (contents lines).map fun ls => (document dedupe ls, [notice ls])

end Dump

end ScriptDoc
