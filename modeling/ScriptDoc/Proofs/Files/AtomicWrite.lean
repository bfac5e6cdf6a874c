import ScriptDoc.Files.AtomicWrite
import ScriptDoc.Proofs.Files.Workspace

/-!
# The steps of a write

* `AtomicWrite.Attempt.performAll_ok`, `AtomicWrite.Attempt.performAll_error`: steps that succeed, and
  the first one that fails;
* `AtomicWrite.Attempt.Fills`, that a temporary file is being filled, and
  `AtomicWrite.Attempt.fills_of_error`: so it is whichever step fails, and it is open just if the step
  is one of those before the closing;
* `AtomicWrite.Attempt.Fills.abandon_of_closed`, `AtomicWrite.Attempt.Fills.abandon_of_refused`: giving
  the write up takes the temporary file away, unless the file is open and cannot be closed;
* `AtomicWrite.performAll_cases`: a write has no temporary file when it fails, or goes on with an empty
  one;
* `AtomicWrite.run_ok`: what it takes for a write to succeed.
-/

namespace ScriptDoc

open ScriptDoc.Text

namespace AtomicWrite

theorem replace_ok {w v : Workspace} {temporary : Location} {target : Path}
    (h : replace w temporary target = .ok v) :
    ∃ l n, w.locate target = .ok l ∧ w.node? l ≠ some .directory ∧ w.node? temporary = some n ∧
      v = (w.remove temporary).put l n := by
  unfold replace at h
  split at h
  · cases h
  cases hl : w.locate target with
  | error e =>
    rw [hl] at h
    cases h
  | ok l =>
    rw [hl] at h
    dsimp only [bind, Except.bind, pure, Except.pure] at h
    split at h
    · cases h
    · rename_i n hn hdir
      cases h
      exact ⟨l, n, rfl, hdir, hn, rfl⟩
    · cases h

namespace Attempt

variable {fault : Option Fault} {target : Path} {bytes : List UInt8} {step : WriteStep}
  {rest : List WriteStep} {a b : Attempt}

/-! ### One step after another -/

theorem performAll_ok (h : performAll fault target bytes (step :: rest) a = (b, none)) :
    (∀ r ∈ fault, r.step ≠ step) ∧ ∃ c, a.perform target bytes step = (c, none) ∧
      performAll fault target bytes rest c = (b, none) := by
  unfold performAll at h
  split at h
  · cases h
  · rename_i hfault
    refine ⟨fun r hr => by simpa using Option.filter_eq_none_iff.1 hfault r hr, ?_⟩
    split at h
    · rename_i c hc
      exact ⟨c, hc, h⟩
    · cases h

theorem performAll_error {f : FileFailure}
    (h : performAll fault target bytes (step :: rest) a = (b, some f)) :
    (∃ r ∈ fault, r.step = step ∧ b = a.interrupt bytes r ∧ f = ⟨r.error, []⟩) ∨
    (∀ r ∈ fault, r.step ≠ step) ∧ (a.perform target bytes step = (b, some f) ∨
      ∃ c, a.perform target bytes step = (c, none) ∧
        performAll fault target bytes rest c = (b, some f)) := by
  unfold performAll at h
  split at h
  · rename_i r hr
    cases h
    obtain ⟨hfault, hstep⟩ := Option.filter_eq_some_iff.1 hr
    exact .inl ⟨r, hfault, by simpa using hstep, rfl, rfl⟩
  · rename_i hfault
    refine .inr ⟨fun r hr => by simpa using Option.filter_eq_none_iff.1 hfault r hr, ?_⟩
    split at h
    · rename_i c hc
      exact .inr ⟨c, hc, h⟩
    · rename_i c g hc
      cases h
      exact .inl hc

/-- A step that is refused does not let the steps succeed. -/
theorem notMem_of_performAll_ok {steps : List WriteStep}
    (h : performAll fault target bytes steps a = (b, none)) : ∀ s ∈ steps, ∀ r ∈ fault, r.step ≠ s := by
  induction steps generalizing a with
  | nil => nofun
  | cons step rest ih =>
    obtain ⟨hfault, c, -, hrest⟩ := performAll_ok h
    rw [List.forall_mem_cons]
    exact ⟨hfault, ih hrest⟩

/-- Steps end with the failure of a refusal, unless one before it fails by itself, or none of them is
refused. -/
theorem failure_performAll (fault : Option Fault) (target : Path) (bytes : List UInt8)
    (steps : List WriteStep) (a : Attempt) :
    (∃ r ∈ fault, (performAll fault target bytes steps a).2 = some ⟨r.error, []⟩) ∨
    performAll fault target bytes steps a = performAll none target bytes steps a := by
  induction steps generalizing a with
  | nil => exact .inr rfl
  | cons step rest ih =>
    rw [performAll, performAll, Option.filter_none]
    cases hfault : fault.filter (·.step == step) with
    | some r => exact .inl ⟨r, (Option.filter_eq_some_iff.1 hfault).1, rfl⟩
    | none =>
      dsimp only
      rcases hstep : a.perform target bytes step with ⟨b, _ | f⟩
      · exact ih b
      · exact .inr rfl

/-! ### Filling the temporary file -/

/-- The steps during which the temporary file is open. -/
def openSteps : List WriteStep := [.write, .flush, .sync]

/-- A temporary file at `t` beside other files is being filled: what has reached it, with what is pending
after that, is what the bytes start with. -/
structure Fills (u : Workspace) (t : Location) (bytes : List UInt8) (a : Attempt) : Prop where
  temporary : a.temporary = some t
  files : ∃ landed, a.files = u.put t (.file landed) ∧ landed ++ a.pending <+: bytes

theorem isOpen_land (n : Nat) (a : Attempt) : (a.land n).isOpen = a.isOpen := by
  unfold land
  split
  · rfl
  · split <;> rfl

section Fills

variable {u : Workspace} {t : Location}

theorem Fills.land (ht : t ≠ []) (h : Fills u t bytes a) (n : Nat) : Fills u t bytes (a.land n) := by
  obtain ⟨landed, hfiles, hprefix⟩ := h.files
  unfold Attempt.land
  rw [h.temporary]
  dsimp only
  rw [hfiles, Workspace.node?_put_self u _ ht]
  dsimp only
  refine ⟨rfl, landed ++ a.pending.take n, Workspace.put_put _ _ _ _, ?_⟩
  rwa [List.append_assoc, List.take_append_drop]

theorem Fills.shut (h : Fills u t bytes a) : Fills u t bytes { a with isOpen := false } :=
  ⟨h.temporary, h.files⟩

theorem Fills.discard_eq (h : Fills u t bytes a) : a.discard = u.remove t := by
  obtain ⟨landed, hfiles, -⟩ := h.files
  unfold discard
  rw [h.temporary]
  dsimp only
  rw [hfiles, Workspace.remove_put_self]

/-- A temporary file that is closed, or can be, is removed. -/
theorem Fills.abandon_of_closed (ht : t ≠ []) (h : Fills u t bytes a) {closing : Option Nat}
    (hclosed : a.isOpen = true → closing = none) : a.abandon closing = (u.remove t, none) := by
  unfold abandon
  split
  · rename_i ho
    rw [hclosed ho]
    exact congrArg (·, none) (h.land ht _).shut.discard_eq
  · rw [h.discard_eq]

/-- A temporary file that cannot be closed stays. -/
theorem Fills.abandon_of_refused (ht : t ≠ []) (h : Fills u t bytes a) (ho : a.isOpen = true) (more : Nat) :
    ∃ landed, landed <+: bytes ∧
      a.abandon (some more) = (u.put t (.file landed), some ⟨.device, []⟩) := by
  obtain ⟨landed, hfiles, hprefix⟩ := (h.land ht more).files
  refine ⟨landed, (List.prefix_append _ _).trans hprefix, ?_⟩
  rw [abandon, if_pos ho, hfiles]

theorem snd_abandon_none (a : Attempt) : (a.abandon none).2 = none := by
  unfold abandon
  split <;> rfl

/-- Renaming changes nothing if it fails. -/
theorem rename_error {f : FileFailure} (h : a.rename target = (b, some f)) : b = a := by
  unfold rename at h
  split at h
  · cases h
    rfl
  · split at h
    · cases h
    · cases h
      rfl

/-- The temporary file is still being filled, and is closed, when the closing or the renaming fails. -/
theorem Fills.closing_error (ht : t ≠ []) (ha : Fills u t bytes a) {f : FileFailure}
    (h : performAll fault target bytes [.close, .rename] a = (b, some f)) :
    Fills u t bytes b ∧ b.isOpen = false := by
  obtain ⟨r, -, hr, rfl, -⟩ | ⟨-, hclose | ⟨c, hclose, hrest⟩⟩ := performAll_error h
  · rw [interrupt, hr]
    exact ⟨(ha.land ht _).shut, rfl⟩
  · cases hclose
  · cases hclose
    have hc : Fills u t bytes a.close := (ha.land ht _).shut
    obtain ⟨r, -, hr, rfl, -⟩ | ⟨-, hrename | ⟨d, -, hd⟩⟩ := performAll_error hrest
    · rw [interrupt, hr]
      exact ⟨hc, rfl⟩
    · obtain rfl := rename_error hrename
      exact ⟨hc, rfl⟩
    · cases hd

/-- The steps after the writing. The induction is on those during which the file is open. -/
theorem Fills.performAll_error (ht : t ≠ []) (steps : List WriteStep)
    (hsteps : ∀ s ∈ steps, s = .flush ∨ s = .sync) (ha : Fills u t bytes a) (ho : a.isOpen = true)
    {f : FileFailure} (h : performAll fault target bytes (steps ++ [.close, .rename]) a = (b, some f)) :
    Fills u t bytes b ∧ (b.isOpen = true ↔ ∃ r ∈ fault, r.step ∈ steps) := by
  induction steps generalizing a with
  | nil =>
    obtain ⟨hb, hclosed⟩ := ha.closing_error ht h
    exact ⟨hb, by simp [hclosed]⟩
  | cons step steps ih =>
    rw [List.forall_mem_cons] at hsteps
    obtain ⟨hstep, hsteps⟩ := hsteps
    obtain ⟨r, hfault, hr, rfl, -⟩ | ⟨hfault, hb | ⟨c, hc, hrest⟩⟩ := Attempt.performAll_error h
    · have hopen : ∃ r ∈ fault, r.step ∈ step :: steps := ⟨r, hfault, by simp [hr]⟩
      rw [interrupt, hr]
      rcases hstep with rfl | rfl
      · exact ⟨ha.land ht _, iff_of_true ((isOpen_land _ _).trans ho) hopen⟩
      · exact ⟨ha, iff_of_true ho hopen⟩
    · rcases hstep with rfl | rfl <;> cases hb
    · have hkeeps : Fills u t bytes c ∧ c.isOpen = true := by
        rcases hstep with rfl | rfl
        · cases hc
          exact ⟨ha.land ht _, (isOpen_land _ _).trans ho⟩
        · cases hc
          exact ⟨ha, ho⟩
      obtain ⟨hb, hiff⟩ := ih hsteps hkeeps.1 hkeeps.2 hrest
      refine ⟨hb, hiff.trans (exists_congr fun r => and_congr_right fun hr => ?_)⟩
      rw [List.mem_cons, or_iff_right (hfault r hr)]

/-- **Whichever step fails once a temporary file is made**, the file is being filled, and it is open
just if a step before the closing is refused. -/
theorem fills_of_error (ht : t ≠ []) {f : FileFailure}
    (h : performAll fault target bytes (openSteps ++ [.close, .rename])
      { files := u.put t (.file []), temporary := some t, isOpen := true } = (b, some f)) :
    Fills u t bytes b ∧ (b.isOpen = true ↔ ∃ r ∈ fault, r.step ∈ openSteps) := by
  have hfills {taken : List UInt8} (htaken : taken <+: bytes) : Fills u t bytes
      { files := u.put t (.file []), temporary := some t, pending := taken, isOpen := true } :=
    ⟨rfl, [], rfl, htaken⟩
  obtain ⟨r, hfault, hr, rfl, -⟩ | ⟨hfault, hwrite | ⟨c, hwrite, hrest⟩⟩ := Attempt.performAll_error h
  · rw [interrupt, hr]
    exact ⟨(hfills (List.take_prefix _ _)).land ht _,
      iff_of_true (isOpen_land _ _) ⟨r, hfault, by rw [hr]; decide⟩⟩
  · cases hwrite
  · cases hwrite
    obtain ⟨hb, hiff⟩ := Fills.performAll_error ht [.flush, .sync] (by simp)
      (hfills (List.prefix_refl bytes)) rfl hrest
    refine ⟨hb, hiff.trans (exists_congr fun r => and_congr_right fun hr => Iff.symm ?_)⟩
    rw [openSteps, List.mem_cons, or_iff_right (hfault r hr)]

end Fills

/-- The temporary file that is made, or why there is none. -/
theorem createTemporary_ok (h : a.createTemporary target = (b, none)) :
    ∃ directory, a.files.locate target.parent = .ok directory ∧
      b = { a with
        files := a.files.put (directory ++ [freshName a.files directory target.name]) (.file [])
        temporary := some (directory ++ [freshName a.files directory target.name])
        isOpen := true } := by
  unfold createTemporary at h
  split at h
  · cases h
  rename_i directory hd
  dsimp only at h
  split at h
  · cases h
  split at h
  · cases h
  · cases h
    exact ⟨directory, hd, rfl⟩

theorem createTemporary_error {f : FileFailure} (h : a.createTemporary target = (b, some f)) :
    b = a := by
  unfold createTemporary at h
  split at h
  · cases h
    rfl
  dsimp only at h
  split at h
  · cases h
    rfl
  split at h
  · cases h
    rfl
  · cases h

/-- Filling a new temporary file. -/
theorem performAll_filling {u : Workspace} {t : Location} (ht : t ≠ []) (target : Path)
    (bytes : List UInt8) (rest : List WriteStep) :
    performAll none target bytes (openSteps ++ .close :: rest)
        { files := u.put t (.file []), temporary := some t, isOpen := true }
      = performAll none target bytes rest
        { files := u.put t (.file bytes), temporary := some t } := by
  simp only [openSteps, List.cons_append, List.nil_append, performAll, perform, close, land,
    Workspace.node?_put_self u _ ht, Workspace.put_put, List.take_length, List.drop_length,
    List.length_nil, List.take_nil, List.drop_nil, List.append_nil, Option.filter_none]

end Attempt

/-! ### Whole writes -/

/-- The directories above a target have been made, and then a temporary file at `t`. -/
structure Prepared (w : Workspace) (target : Path) (u : Workspace) (t : Location) : Prop where
  made : w.makeDirectories target.parent = (u, none)
  created : ({ files := u } : Attempt).createTemporary target =
    ({ files := u.put t (.file []), temporary := some t, isOpen := true }, none)

theorem Prepared.temporary_eq {w u : Workspace} {target : Path} {t : Location}
    (h : Prepared w target u t) : ∃ directory, u.locate target.parent = .ok directory ∧
      t = directory ++ [freshName u directory target.name] := by
  obtain ⟨directory, hd, heq⟩ := Attempt.createTemporary_ok h.created
  exact ⟨directory, hd, Option.some.inj (congrArg Attempt.temporary heq)⟩

theorem Prepared.ne_nil {w u : Workspace} {target : Path} {t : Location} (h : Prepared w target u t) :
    t ≠ [] := by
  obtain ⟨directory, -, rfl⟩ := h.temporary_eq
  simp

/-- A write of which no step is refused goes on with the temporary file. -/
theorem Prepared.performAll_none {w u : Workspace} {target : Path} {t : Location}
    (h : Prepared w target u t) (bytes : List UInt8) :
    Attempt.performAll none target bytes WriteStep.all { files := w } =
      Attempt.performAll none target bytes (Attempt.openSteps ++ [.close, .rename])
        { files := u.put t (.file []), temporary := some t, isOpen := true } := by
  simp only [WriteStep.all, Attempt.performAll, Option.filter_none, Attempt.perform, h.made, h.created]
  rfl

/-- A write fails before it has a temporary file, by itself or because a step is refused then, or it
goes on with an empty one. -/
theorem performAll_cases (fault : Option Fault) (w : Workspace) (target : Path) (bytes : List UInt8) :
    (∃ u f, (u = w ∨ u = (w.makeDirectories target.parent).1) ∧
      ((∃ r ∈ fault, r.step ∉ Attempt.openSteps ∧ f = ⟨r.error, []⟩) ∨
        Attempt.performAll none target bytes WriteStep.all { files := w } = ({ files := u }, some f)) ∧
      Attempt.performAll fault target bytes WriteStep.all { files := w } = ({ files := u }, some f)) ∨
    ∃ u t, Prepared w target u t ∧
      Attempt.performAll fault target bytes WriteStep.all { files := w } =
        Attempt.performAll fault target bytes (Attempt.openSteps ++ [.close, .rename])
          { files := u.put t (.file []), temporary := some t, isOpen := true } := by
  rcases hu : w.makeDirectories target.parent with ⟨u, failure?⟩
  have hmake : ({ files := w } : Attempt).perform target bytes .makeParents =
      ({ files := u }, failure?) := by
    simp only [Attempt.perform, hu]
  rcases hcreate : ({ files := u } : Attempt).createTemporary target with ⟨a, creation?⟩
  have hcreates : ({ files := u } : Attempt).perform target bytes .createTemporary = (a, creation?) :=
    hcreate
  simp only [WriteStep.all, Attempt.performAll, Option.filter_none, hmake]
  cases hparents : fault.filter (·.step == .makeParents) with
  | some r =>
    obtain ⟨hr, hstep⟩ := Option.filter_eq_some_iff.1 hparents
    rw [beq_iff_eq] at hstep
    refine .inl ⟨w, ⟨r.error, []⟩, .inl rfl, .inl ⟨r, hr, by rw [hstep]; decide, rfl⟩, ?_⟩
    simp only [Attempt.interrupt, hstep]
  | none =>
    cases failure? with
    | some f => exact .inl ⟨u, f, .inr rfl, .inr rfl, rfl⟩
    | none =>
      simp only [hcreates]
      cases htemporary : fault.filter (·.step == .createTemporary) with
      | some r =>
        obtain ⟨hr, hstep⟩ := Option.filter_eq_some_iff.1 htemporary
        rw [beq_iff_eq] at hstep
        refine .inl ⟨u, ⟨r.error, []⟩, .inr rfl, .inl ⟨r, hr, by rw [hstep]; decide, rfl⟩, ?_⟩
        simp only [Attempt.interrupt, hstep]
      | none =>
        cases creation? with
        | some f =>
          obtain rfl := Attempt.createTemporary_error hcreate
          exact .inl ⟨u, f, .inr rfl, .inr rfl, rfl⟩
        | none =>
          obtain ⟨directory, hd, rfl⟩ := Attempt.createTemporary_ok hcreate
          exact .inr ⟨u, _, ⟨hu, hcreate⟩, rfl⟩

/-- A write succeeds only if no step fails, by putting a filled temporary file in the place of its
target. -/
theorem run_ok {fault : Option Fault} {w v : Workspace} {target : Path} {text : String}
    (h : run fault w target text = (v, none)) :
    fault = none ∧ ∃ u t, Prepared w target u t ∧
      replace (u.put t (.file (Utf8.encode text.toList))) t target = .ok v := by
  unfold run at h
  split at h
  · rename_i a ha
    cases h
    obtain rfl : fault = none := by
      have hall := Attempt.notMem_of_performAll_ok ha
      rw [Option.eq_none_iff_forall_not_mem]
      exact fun r hr => hall r.step (by cases r.step <;> decide) r hr rfl
    obtain ⟨_, _, -, -, hfails⟩ | ⟨u, t, hprepared, hfilling⟩ :=
      performAll_cases none w target (Utf8.encode text.toList)
    · rw [hfails] at ha
      cases ha
    · refine ⟨rfl, u, t, hprepared, ?_⟩
      rw [hfilling, Attempt.performAll_filling hprepared.ne_nil] at ha
      obtain ⟨-, b, hrename, hlast⟩ := Attempt.performAll_ok ha
      cases hlast
      simp only [Attempt.perform, Attempt.rename] at hrename
      split at hrename
      · rename_i v hv
        cases hrename
        exact hv
      · cases hrename
  · split at h
    rename_i v closing _
    cases closing <;> cases h

end AtomicWrite

end ScriptDoc
