import ScriptDoc.Console.Table
import ScriptDoc.Notice
import ScriptDoc.Work

/-!
# The console

Documents and tables go to standard output, everything else to standard error.  A `Console` knows how
data are laid out and which lines are wanted; each of its functions gives the text that it prints.
-/

namespace ScriptDoc

/-- How data are laid out on standard output. -/
inductive Layout where
  | json
  | plain
  /-- Tables in boxes, for a terminal. -/
  | rich
  deriving DecidableEq, Repr

/-- The word for a layout. -/
def Layout.word : Layout → String
  | .json => "json"
  | .plain => "plain"
  | .rich => "rich"

/-- The layout that is asked for; `auto` asks for none. -/
def Layout.request? (word : String) : Option (Option Layout) :=
  [("auto", none), ("json", some .json), ("plain", some .plain), ("rich", some .rich)].lookup word

/-- Text on both outputs. -/
structure Printed where
  out : String := ""
  err : String := ""
  deriving DecidableEq, Repr

/-- One text after another. -/
instance : Append Printed := ⟨fun a b => ⟨a.out ++ b.out, a.err ++ b.err⟩⟩

/-- A console. -/
structure Console where
  layout : Layout := .plain
  /-- Whether all but warnings and errors is dropped. -/
  quiet : Bool := false
  /-- Whether debug lines are shown. -/
  verbose : Bool := false
  /-- Whether standard output is a terminal. -/
  terminal : Bool := false
  deriving DecidableEq, Repr

namespace Console

/-- Whether the surroundings ask for no colour. -/
def refusesColour (s : Surroundings) : Bool :=
  (s.environment.lookup "NO_COLOR").isSome || s.environment.lookup "TERM" == some "dumb"

/-- A console with the layout that is asked for. Without one, a terminal with colours gets boxes, and
anything else plain text. -/
def forRequest (s : Surroundings) (request : Option Layout) (noColour quiet verbose : Bool) : Console :=
  let boxes := s.terminal && !noColour && !refusesColour s
  { layout := request.getD (if boxes then .rich else .plain), quiet, verbose, terminal := s.terminal }

/-- A line on standard output. -/
def data (line : String) : Printed := { out := line ++ "\n" }

/-- A line on standard error. -/
def line (lead text : String) : Printed := { err := lead ++ text ++ "\n" }

/-- A line that is dropped unless it is wanted. -/
def lineIf (wanted : Bool) (lead text : String) : Printed := if wanted then line lead text else {}

/-- A value as indented JSON. -/
def document (v : Value) : Printed := data (Json.render {} v)

/-- Lines on standard output. -/
def lines (ls : List String) : Printed := { out := String.join (ls.map (· ++ "\n")) }

/-- A table in the layout of the console. -/
def table (c : Console) (t : Table) : Except Markup.Error Printed :=
  match c.layout with
  | .json => .ok (document t.objects)
  | .plain => .ok (lines t.tabbed)
  | .rich => t.boxed.map lines

/-- What is going on. -/
def info (c : Console) (text : String) : Printed := lineIf (!c.quiet) "" text

/-- What has been achieved. -/
def success (c : Console) (text : String) : Printed := lineIf (!c.quiet) "" text

/-- A warning. -/
def warning (_ : Console) (text : String) : Printed := line "Warning: " text

/-- An error. -/
def error (_ : Console) (text : String) : Printed := line "Error: " text

/-- What the user may do next. -/
def suggest (c : Console) (text : String) : Printed := lineIf (!c.quiet) "→ " text

/-- A detail for those who look for mistakes. -/
def debug (c : Console) (text : String) : Printed := lineIf c.verbose "[debug] " text

/-- A status for those who sit at a terminal. -/
def progress (c : Console) (text : String) : Printed := lineIf (!c.quiet && c.terminal) "" text

/-- The least level that is reported. -/
def threshold (detailed : Bool) : Level := if detailed then .debug else .info

/-- A report of a level; those below the threshold are dropped. -/
def report (c : Console) (detailed : Bool) (level : Level) (text : String) : Printed :=
  if level.rank < (threshold detailed).rank then {}
  else
    match level with
    | .critical => c.error text
    | .error => c.error text
    | .warning => c.warning text
    | .info => c.info text
    | .debug => c.debug text

/-- A notice of the library. -/
def notice (c : Console) (n : Notice) : Printed := c.report c.verbose n.level n.text

/-- Notices of the library, in their order. -/
def notices (c : Console) (ns : List Notice) : Printed :=
  ns.foldl (fun p n => p ++ c.notice n) {}

end Console

end ScriptDoc
