import ScriptDoc.Files.Workspace

/-!
# Atomic writes

A text is written to a temporary file beside its target, which then takes the place of the target.
If a step fails, the temporary file is closed and removed, and all files are as they were; directories
made on the way stay.  Only if the closing fails as well, the temporary file stays.
-/

namespace ScriptDoc

open ScriptDoc.Text

/-- The steps of a write. -/
inductive WriteStep where
  | makeParents
  | createTemporary
  | write
  | flush
  | sync
  | close
  | rename
  deriving DecidableEq, Repr

/-- The steps of a write in their order. -/
def WriteStep.all : List WriteStep :=
  [.makeParents, .createTemporary, .write, .flush, .sync, .close, .rename]

namespace AtomicWrite

/-- A step that is refused for a reason that lies in no file: a device takes no more bytes, or a text has
characters for which there are none. -/
structure Fault where
  step : WriteStep
  error : FileError := .device
  /-- How many bytes of the text have been taken when the writing itself is refused. -/
  taken : Nat := 0
  /-- How many of the bytes that are pending then have reached the temporary file. -/
  landed : Nat := 0
  /-- If the device refuses the closing of the temporary file as well, how many more bytes reach it before. -/
  closing : Option Nat := none
  deriving DecidableEq, Repr

/-- A step that a device refuses. -/
def Fault.ofStep (step : WriteStep) : Fault := { step }

instance : Coe (Option WriteStep) (Option Fault) where
  coe step := step.map .ofStep

/-- The name of a temporary file for a target; `n` tells several apart. -/
def temporaryName (name : String) (n : Nat) : String :=
  "." ++ name ++ "." ++ String.ofList ((Nat.toDigits 10 n).leftpad 8 '0') ++ ".tmp"

/-- A name for a temporary file that is not taken in a directory. -/
def freshName (w : Workspace) (directory : Location) (name : String) : String :=
  let candidates := (List.range (w.entries.length + 1)).map (temporaryName name)
  (candidates.find? fun c => (w.entries.lookup (directory ++ [c])).isNone).getD
    (temporaryName name w.entries.length)

/-- Whether a path ends in a part that can name a file. -/
def namesEntry (p : Path) : Bool := !p.parts.isEmpty && p.name != ".."

/-- Puts the temporary file at `temporary` in the place of the target. -/
def replace (w : Workspace) (temporary : Location) (target : Path) : Except FileError Workspace := do
  if !namesEntry target then .error .busy
  let l ← w.locate target
  match w.node? l, w.node? temporary with
  | some .directory, _ => .error .isDirectory
  | _, some n => .ok ((w.remove temporary).put l n)
  | _, none => .error .notFound

/-- A write under way. -/
structure Attempt where
  files : Workspace
  /-- Where the temporary file stands, once it is made. -/
  temporary : Option Location := none
  /-- Bytes that have been written, but have not reached the temporary file yet. -/
  pending : List UInt8 := []
  /-- Whether the temporary file is open. -/
  isOpen : Bool := false

namespace Attempt

/-- Lets the first `n` of the pending bytes reach the temporary file. -/
def land (n : Nat) (a : Attempt) : Attempt :=
  match a.temporary with
  | none => a
  | some t =>
    match a.files.node? t with
    | some (.file bytes) =>
      { a with
        files := a.files.put t (.file (bytes ++ a.pending.take n))
        pending := a.pending.drop n }
    | _ => a

/-- Closes the temporary file, after all pending bytes have reached it. -/
def close (a : Attempt) : Attempt := { a.land a.pending.length with isOpen := false }

/-- The files without the temporary file. -/
def discard (a : Attempt) : Workspace :=
  match a.temporary with
  | none => a.files
  | some t => a.files.remove t

/-- Gives a write up: the temporary file is closed, unless it is closed already, and removed. A closing that
is refused, after some more bytes, is a failure of its own, with which the temporary file stays. -/
def abandon (closing : Option Nat) (a : Attempt) : Workspace × Option FileFailure :=
  if a.isOpen then
    match closing with
    | none => (a.close.discard, none)
    | some more => ((a.land more).files, some ⟨.device, []⟩)
  else (a.discard, none)

/-- Makes a temporary file beside the target and opens it. -/
def createTemporary (target : Path) (a : Attempt) : Attempt × Option FileFailure :=
  match a.files.locate target.parent with
  | .error e => (a, some ⟨e, [target.parent]⟩)
  | .ok directory =>
    let name := freshName a.files directory target.name
    if target.name.toList.contains (Char.ofNat 0) then (a, some ⟨.nullCharacter, []⟩)
    else if Workspace.byteLength name > Workspace.maxNameBytes then
      (a, some ⟨.nameTooLong, [target.parent.child name]⟩)
    else
      let t := directory ++ [name]
      ({ a with files := a.files.put t (.file []), temporary := some t, isOpen := true }, none)

/-- Puts the temporary file in the place of the target. -/
def rename (target : Path) (a : Attempt) : Attempt × Option FileFailure :=
  match a.temporary with
  | none => (a, some ⟨.notFound, [target]⟩)
  | some t =>
    match replace a.files t target with
    | .ok w => ({ a with files := w, temporary := none }, none)
    | .error e => (a, some ⟨e, [target.parent.child (t.getLastD ""), target]⟩)

/-- Performs a step. -/
def perform (target : Path) (bytes : List UInt8) (a : Attempt) :
    WriteStep → Attempt × Option FileFailure
  | .makeParents =>
    let (w, failure?) := a.files.makeDirectories target.parent
    ({ a with files := w }, failure?)
  | .createTemporary => a.createTemporary target
  | .write => ({ a with pending := a.pending ++ bytes }, none)
  | .flush => (a.land a.pending.length, none)
  | .sync => (a, none)
  | .close => (a.close, none)
  | .rename => a.rename target

/-- What a step leaves behind that is refused. A file whose closing is refused is closed nevertheless. -/
def interrupt (bytes : List UInt8) (fault : Fault) (a : Attempt) : Attempt :=
  match fault.step with
  | .write => ({ a with pending := a.pending ++ bytes.take fault.taken } : Attempt).land fault.landed
  | .flush => a.land fault.landed
  | .close => { a.land fault.landed with isOpen := false }
  | _ => a

/-- Performs steps one after another up to the first one that fails by itself or is refused. -/
def performAll (fault : Option Fault) (target : Path) (bytes : List UInt8) :
    List WriteStep → Attempt → Attempt × Option FileFailure
  | [], a => (a, none)
  | step :: rest, a =>
    match fault.filter (·.step == step) with
    | some refusal => (a.interrupt bytes refusal, some ⟨refusal.error, []⟩)
    | none =>
      match a.perform target bytes step with
      | (a, none) => performAll fault target bytes rest a
      | (a, some f) => (a, some f)

end Attempt

/-- Writes a text, where the step of `fault`, if any, is refused. After a step that fails the write is given
up; the failure is that of the step, or else that of the closing. -/
def run (fault : Option Fault) (w : Workspace) (target : Path) (text : String) :
    Workspace × Option FileFailure :=
  match Attempt.performAll fault target (Utf8.encode text.toList) WriteStep.all { files := w } with
  | (a, none) => (a.files, none)
  | (a, some f) =>
    let (v, closing) := a.abandon (fault.bind (·.closing))
    (v, closing.or (some f))

end AtomicWrite

/-- Writes a text to a file, where a step may be refused. -/
def Workspace.write (w : Workspace) (target : Path) (text : String)
    (fault : Option AtomicWrite.Fault := none) : Workspace × Option FileFailure :=
  AtomicWrite.run fault w target text

end ScriptDoc
