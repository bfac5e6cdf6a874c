/-!
# Notices

What the library reports while it works: each notice has a level and a text.
-/

namespace ScriptDoc

/-- How much a notice matters. -/
inductive Level where
  | debug
  | info
  | warning
  | error
  | critical
  deriving DecidableEq, Repr

/-- The kinds of records that are reconciled by name. -/
inductive RecordKind where
  | function
  | enum
  | global
  deriving DecidableEq, Repr

/-- An event worth a report. -/
inductive Notice where
  /-- A doc block documents no function. -/
  | discarded (diagnostic : String)
  /-- A unit is given up. -/
  | aborted (identifier reason : String)
  /-- A unit documents functions. -/
  | documented (count : Nat) (identifier : String)
  /-- A function was documented by an earlier unit. -/
  | duplicate (name identifier first : String)
  /-- A source file cannot be read. -/
  | unreadable (path reason : String)
  /-- Source files were found. -/
  | found (count : Nat) (root : String)
  /-- What a dump contained. -/
  | imported (functions globals members : Nat)
  /-- A record was not there before. -/
  | introduced (kind : RecordKind) (name : String)
  /-- A record is merged with the one of its name. -/
  | merged (kind : RecordKind) (name : String)
  /-- A document of several is merged. -/
  | folding (position total : Nat)
  deriving DecidableEq, Repr

/-- The word for a kind of record. -/
def RecordKind.word : RecordKind → String
  | .function => "function"
  | .enum => "enum"
  | .global => "global"

/-- The word for a level. -/
def Level.word : Level → String
  | .debug => "DEBUG"
  | .info => "INFO"
  | .warning => "WARNING"
  | .error => "ERROR"
  | .critical => "CRITICAL"

/-- The rank of a level. -/
def Level.rank : Level → Nat
  | .debug => 10
  | .info => 20
  | .warning => 30
  | .error => 40
  | .critical => 50

namespace Notice

/-- The level of a notice. -/
def level : Notice → Level
  | .discarded _ => .warning
  | .aborted _ _ => .warning
  | .documented _ _ => .info
  | .duplicate _ _ _ => .warning
  | .unreadable _ _ => .warning
  | .found _ _ => .debug
  | .imported _ _ _ => .debug
  | .introduced _ _ => .info
  | .merged _ _ => .info
  | .folding _ _ => .debug

/-- The text of a notice. -/
def text : Notice → String
  | .discarded diagnostic => s!"Discarding doc block: {diagnostic}"
  | .aborted identifier reason => s!"Aborting {identifier}: {reason}"
  | .documented count identifier =>
    s!"Read {toString count} documented functions from {identifier}"
  | .duplicate name identifier first =>
    s!"Duplicate function {name} in {identifier} (already documented in {first})"
  | .unreadable path reason => s!"Failed reading {path}: {reason}"
  | .found count root => s!"Found {toString count} source files below {root}"
  | .imported functions globals members =>
    s!"Dump contained {toString functions} functions, {toString globals} globals, "
      ++ s!"{toString members} enum values"
  | .introduced kind name => s!"Introducing {kind.word} {name}"
  | .merged kind name => s!"Merging {kind.word} {name}"
  | .folding position total => s!"Merging document {toString position} of {toString total}"

end Notice

end ScriptDoc
