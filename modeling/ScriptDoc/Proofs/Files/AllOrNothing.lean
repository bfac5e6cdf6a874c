import ScriptDoc.Proofs.Files.Frame

/-!
# How far writes are all or nothing

A write that succeeds leaves the bytes of its text where its path leads, and every other file as it was.
A write that fails, at whatever step, leaves every file as it was and brings none in, with one
exception: if the device refuses a step while the temporary file is open, and then its closing as well,
the temporary file is not removed.

* `AtomicWrite.run_leaves`: what is left, in all cases;
* `AtomicWrite.run_keeps_temporary`: the exception does happen.
-/

namespace ScriptDoc.AtomicWrite

open ScriptDoc.Text

/-- **What a write leaves.** If it succeeds, no step was refused, its path leads to a file that holds
the bytes of the text, and every other file is as it was. If it fails, with the failure of the step that
was refused or would have failed in any case, every file is as it was, and no file came in. But where a
step is refused while the temporary file is open, and its closing is refused too, a new file stays that
holds some of the first bytes of the text, and the failure is that of the closing; only a write that
fails before it has a temporary file leaves none then. -/
theorem run_leaves (fault : Option Fault) (w : Workspace) (target : Path) (text : String) :
    (∀ v, run fault w target text = (v, none) →
      fault = none ∧ ∃ l, v.locate target = .ok l ∧ v.file? l = some (Utf8.encode text.toList) ∧
        ∀ m, m ≠ l → v.file? m = w.file? m) ∧
    (∀ v f, run fault w target text = (v, some f) → (∀ r ∈ fault, ¬ r.KeepsOpen) →
      ((∃ r ∈ fault, f = ⟨r.error, []⟩) ∨ (run none w target text).2 = some f) ∧
        ∀ l, v.file? l = w.file? l) ∧
    ∀ r, r.KeepsOpen → fault = some r →
      (∃ v f, run fault w target text = (v, some f) ∧ (run none w target text).2 = some f ∧
        ∀ l, v.file? l = w.file? l) ∨
      ∃ v t landed, run fault w target text = (v, some ⟨.device, []⟩) ∧
        landed <+: Utf8.encode text.toList ∧ w.file? t = none ∧ v.file? t = some landed ∧
        ∀ l, l ≠ t → v.file? l = w.file? l := by
  refine ⟨fun v h => ?_, fun v f h hfault => ?_, fun r hr hfault => ?_⟩
  · obtain ⟨hfault, -⟩ := run_ok h
    obtain ⟨u, l, hu, hl, hdir, rfl⟩ := Workspace.eq_put_of_write h
    have hmake := w.makeDirectories_gains target.parent
    rw [hu] at hmake
    obtain ⟨hlocate, hnode⟩ := Workspace.locate_put (Utf8.encode text.toList) hl hdir
    refine ⟨hfault, l, hlocate, Workspace.file?_eq_some.2 hnode, fun m hm => ?_⟩
    rw [Workspace.file?_congr (Workspace.node?_put_of_ne u _ hm), hmake.files m]
  · refine ⟨?_, ((leaves_of_run_error h).gains hfault).files⟩
    obtain ⟨-, hcause⟩ | ⟨_, _, _, -, -, -, -, r, hr, hkeeps⟩ := run_error h
    · exact hcause.imp_left fun ⟨r, hr, _, hf⟩ => ⟨r, hr, hf⟩
    · exact absurd hkeeps (hfault r hr)
  · subst hfault
    rcases hrun : run (some r) w target text with ⟨v, _ | f⟩
    · cases (run_ok hrun).1
    obtain ⟨hv, hcause⟩ | ⟨u, t, landed, hprepared, hprefix, rfl, rfl, -⟩ := run_error hrun
    · obtain ⟨r', hr', hnot, -⟩ | hnone := hcause
      · cases hr'
        exact absurd hr hnot
      · refine .inl ⟨v, f, rfl, hnone, ?_⟩
        obtain rfl | rfl := hv
        · exact fun l => rfl
        · exact (w.makeDirectories_gains target.parent).files
    · have hmake := w.makeDirectories_gains target.parent
      rw [hprepared.made] at hmake
      refine .inr ⟨_, t, landed, rfl, hprefix, ?_, ?_, fun l hl => ?_⟩
      · rw [← hmake.files t, Workspace.file?_of_none hprepared.node?_eq_none]
      · exact Workspace.file?_eq_some.2 (Workspace.node?_put_self u _ hprepared.ne_nil)
      · rw [Workspace.file?_congr (Workspace.node?_put_of_ne u _ hl), hmake.files l]

/-- The device takes one byte of three when the file is flushed, and one more when it is closed: what is
written so far stays beside the file that was to be replaced. -/
theorem run_keeps_temporary :
    ∃ v, run (some { step := .flush, landed := 1, closing := some 1 })
        { entries := [(["a"], .directory), (["a", "t"], .file [1, 2])] } ⟨"", ["a", "t"]⟩ "new" =
        (v, some ⟨.device, []⟩) ∧
      v.file? ["a", "t"] = some [1, 2] ∧ v.file? ["a", temporaryName "t" 0] = some [110, 101] :=
  ⟨_, rfl, rfl, rfl⟩

end ScriptDoc.AtomicWrite
