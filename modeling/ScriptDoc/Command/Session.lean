import ScriptDoc.Console.Basic

/-!
# Sessions

A session is work that also prints.  It ends with a value, with trouble, or early with an exit code;
what was printed and what was changed before that stays.
-/

namespace ScriptDoc

/-- Why a session ends early. -/
inductive Stop where
  | trouble (t : Trouble)
  | exit (code : Nat)
  deriving DecidableEq

/-- How far a session came: its result, what it printed, and the files it leaves. -/
structure SessionEnd (α : Type) where
  result : Except Stop α
  printed : Printed := {}
  workspace : Workspace

/-- Work that prints. -/
abbrev Session (α : Type) := Console → Surroundings → Workspace → SessionEnd α

namespace Session

instance : Monad Session where
  pure a := fun _ _ w => { result := .ok a, workspace := w }
  bind m f := fun c s w =>
    let first := m c s w
    match first.result with
    | .ok a =>
      let second := f a c s first.workspace
      { second with printed := first.printed ++ second.printed }
    | .error e => { result := .error e, printed := first.printed, workspace := first.workspace }

/-- Does a piece of work and gives its result, trouble included. -/
def attempt {α : Type} (work : Work α) : Session (Except Trouble α) := fun _ s w =>
  let (r, w) := work s w
  { result := .ok r, workspace := w }

/-- Stops with trouble. -/
def fail {α : Type} (t : Trouble) : Session α := fun _ _ w =>
  { result := .error (.trouble t), workspace := w }

/-- Stops with an exit code. -/
def exit {α : Type} (code : Nat) : Session α := fun _ _ w =>
  { result := .error (.exit code), workspace := w }

/-- Does a piece of work. -/
def perform {α : Type} (work : Work α) : Session α := do
  match ← attempt work with
  | .ok a => return a
  | .error t => fail t

/-- Goes on with a value, unless an operation on files failed. -/
def finished {α : Type} : Except FileFailure α → Session α
  | .ok a => pure a
  | .error f => fail (.accident (.files f))

/-- Prints what the console makes of something. -/
def print (f : Console → Printed) : Session Unit := fun c _ w =>
  { result := .ok (), printed := f c, workspace := w }

/-- Prints a table. -/
def printTable (t : Table) : Session Unit := fun c s w =>
  match c.table t with
  | .ok printed => print (fun _ => printed) c s w
  | .error e => fail (.accident (.badMarkup e)) c s w

/-- Prints what is going on. -/
def info (text : String) : Session Unit := print (·.info text)

/-- Prints notices of the library. -/
def notices (ns : List Notice) : Session Unit := print (·.notices ns)

end Session

end ScriptDoc
