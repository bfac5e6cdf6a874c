import Mathlib.Data.List.Nodup
import Mathlib.Data.List.Perm.Subperm
import ScriptDoc.Proofs.Files.AtomicWrite
import ScriptDoc.Proofs.Json.Scalars

/-!
# What operations on files leave alone

Making directories changes no file, and neither does a write that fails: only if its temporary file
cannot be closed, that one is new. A write that succeeds changes the file to which its path leads and no
other one.

* `Workspace.file?`, the bytes of the file at a location;
* `Workspace.GainsDirectories`, that nothing but directories came in, and `Workspace.Extends`, that
  nothing was lost;
* `AtomicWrite.run_error`: how a write fails, and `AtomicWrite.Leaves`, what it leaves then;
* `Workspace.makeDirectories_gains`, `Workspace.leaves_of_write_error`, `Workspace.write_ok`;
* `Workspace.stat_of_write`: after a write that succeeds, its path leads to a file that holds the bytes
  of the text;
* `AtomicWrite.run_eq`: when a write succeeds, and `Workspace.TakesNewFile`, a path at which it makes a
  new file. -/

namespace ScriptDoc

open ScriptDoc.Text

namespace Workspace

variable {w v u : Workspace} {l m : Location}

/-- The bytes of the file at a location. -/
def file? (w : Workspace) (l : Location) : Option (List UInt8) :=
  match w.node? l with
  | some (.file bytes) => some bytes
  | _ => none

theorem file?_eq_some {bytes : List UInt8} :
    w.file? l = some bytes ↔ w.node? l = some (.file bytes) := by
  unfold file?
  split
  · rename_i b hb
    simp [hb]
  · rename_i hno
    refine iff_of_false (by simp) fun h => hno bytes h

theorem file?_congr (h : v.node? l = w.node? l) : v.file? l = w.file? l := by
  rw [file?, file?, h]

theorem file?_of_directory (h : w.node? l = some .directory) : w.file? l = none := by
  rw [file?, h]

theorem file?_of_none (h : w.node? l = none) : w.file? l = none := by
  rw [file?, h]

/-- Nothing but directories came in, and nothing was lost. -/
structure GainsDirectories (w v : Workspace) : Prop where
  here : v.here = w.here
  files : ∀ l, v.file? l = w.file? l
  directories : w.KeepsDirectories v

/-- Nothing was lost. -/
structure Extends (w v : Workspace) : Prop where
  here : v.here = w.here
  files : ∀ {l bytes}, w.file? l = some bytes → v.file? l = some bytes
  directories : w.KeepsDirectories v

theorem GainsDirectories.refl (w : Workspace) : w.GainsDirectories w :=
  ⟨rfl, fun _ => rfl, fun _ => id⟩

theorem GainsDirectories.trans (h : w.GainsDirectories v) (h' : v.GainsDirectories u) :
    w.GainsDirectories u where
  here := h'.here.trans h.here
  files l := (h'.files l).trans (h.files l)
  directories l hl := h'.directories l (h.directories l hl)

theorem GainsDirectories.extends (h : w.GainsDirectories v) : w.Extends v :=
  ⟨h.here, fun {l _} hl => (h.files l).trans hl, h.directories⟩

theorem Extends.trans (h : w.Extends v) (h' : v.Extends u) : w.Extends u where
  here := h'.here.trans h.here
  files hl := h'.files (h.files hl)
  directories l hl := h'.directories l (h.directories l hl)

/-- A path that leads to a file leads to it as long as nothing is lost. -/
theorem Extends.stat (h : w.Extends v) {p : Path} {bytes : List UInt8}
    (hs : w.stat p = .ok (.file bytes)) : v.stat p = .ok (.file bytes) := by
  unfold Workspace.stat at hs
  cases hl : w.locate p with
  | error e =>
    rw [hl] at hs
    cases hs
  | ok l =>
    rw [hl] at hs
    dsimp only [bind, Except.bind] at hs
    split at hs
    · rename_i n hn
      cases hs
      have hv := h.files (file?_eq_some.2 hn)
      exact stat_of_locate (locate_of_keepsDirectories h.directories h.here hl)
        (file?_eq_some.1 hv)
    · cases hs

/-! ### Directories -/

/-- A new directory. -/
theorem gains_put_directory (h : w.node? l = none) : w.GainsDirectories (w.put l .directory) := by
  have hne : l ≠ [] := by
    rintro rfl
    cases h
  refine ⟨rfl, fun m => ?_, fun m hm => ?_⟩
  · by_cases hm : m = l
    · subst hm
      rw [file?_of_directory (node?_put_self w _ hne), file?_of_none h]
    · exact file?_congr (node?_put_of_ne w _ hm)
  · have hml : m ≠ l := by
      rintro rfl
      rw [h] at hm
      cases hm
    rw [node?_put_of_ne w _ hml, hm]

theorem makeDirectory_ok {p : Path} (h : w.makeDirectory p = .ok v) :
    ∃ l, w.locate p = .ok l ∧ w.node? l = none ∧ v = w.put l .directory := by
  unfold makeDirectory at h
  cases hl : w.locate p with
  | error e =>
    rw [hl] at h
    cases h
  | ok l =>
    rw [hl] at h
    dsimp only [bind, Except.bind] at h
    split at h
    · cases h
    · rename_i hn
      cases h
      exact ⟨l, rfl, hn, rfl⟩

/-- Where a path leads if a directory stands there. -/
theorem locate_of_isDirectory {p : Path} (h : w.isDirectory p = .ok true) :
    ∃ l, w.locate p = .ok l ∧ w.node? l = some .directory := by
  unfold isDirectory Workspace.is Workspace.stat at h
  cases hl : w.locate p with
  | error e =>
    rw [hl] at h
    cases e <;> cases h
  | ok l =>
    refine ⟨l, rfl, ?_⟩
    rw [hl] at h
    dsimp only [bind, Except.bind] at h
    cases hn : w.node? l with
    | none =>
      rw [hn] at h
      cases h
    | some n =>
      rw [hn] at h
      cases n with
      | file b => cases h
      | directory => rfl

/-- A directory that is there or can be made. -/
theorem ensureDirectory_ok {p : Path} (h : w.ensureDirectory p = .ok v) :
    w.GainsDirectories v ∧ ∃ l, v.locate p = .ok l ∧ v.node? l = some .directory := by
  unfold ensureDirectory at h
  split at h
  · rename_i v' hv
    cases h
    obtain ⟨l, hl, hn, rfl⟩ := makeDirectory_ok hv
    have hg := gains_put_directory hn
    have hne : l ≠ [] := by
      rintro rfl
      cases hn
    exact ⟨hg, l, locate_of_keepsDirectories hg.directories hg.here hl, node?_put_self w _ hne⟩
  · cases h
  · cases h
  · split at h
    · rename_i hd
      cases h
      exact ⟨.refl w, locate_of_isDirectory hd⟩
    · cases h

theorem makeDirectoriesTo_gains (w : Workspace) (p : Path) (n : Nat) :
    w.GainsDirectories (w.makeDirectoriesTo p n).1 := by
  induction n with
  | zero =>
    unfold makeDirectoriesTo
    split
    · rename_i v hv
      exact (ensureDirectory_ok hv).1
    · exact .refl w
  | succ n ih =>
    unfold makeDirectoriesTo
    dsimp only
    split
    · rename_i v hv
      exact (ensureDirectory_ok hv).1
    · -- the directories above are made first, and then this one is tried again
      split
      · rename_i v f hv
        rwa [hv] at ih
      · rename_i v hv
        rw [hv] at ih
        split
        · rename_i u hu
          exact ih.trans (ensureDirectory_ok hu).1
        · exact ih
    · exact .refl w

theorem makeDirectories_gains (w : Workspace) (p : Path) :
    w.GainsDirectories (w.makeDirectories p).1 :=
  makeDirectoriesTo_gains w p p.parts.length

/-- Directories that were made are there. -/
theorem makeDirectories_ok {p : Path} (h : w.makeDirectories p = (v, none)) :
    ∃ l, v.locate p = .ok l ∧ v.node? l = some .directory := by
  unfold makeDirectories at h
  have htake : { p with parts := p.parts.take p.parts.length } = p := by rw [List.take_length]
  cases hn : p.parts.length with
  | zero =>
    have hnil : { p with parts := [] } = p := by rw [← List.eq_nil_of_length_eq_zero hn]
    rw [hn] at h
    unfold makeDirectoriesTo at h
    rw [hnil] at h
    split at h
    · rename_i v' hv
      cases h
      exact (ensureDirectory_ok hv).2
    · cases h
  | succ n =>
    rw [hn] at h htake
    unfold makeDirectoriesTo at h
    rw [htake] at h
    dsimp only at h
    split at h
    · rename_i v' hv
      cases h
      exact (ensureDirectory_ok hv).2
    · split at h
      · cases h
      · split at h
        · rename_i u hu
          cases h
          exact (ensureDirectory_ok hu).2
        · cases h
    · cases h

/-- Making a directory that is there changes nothing. -/
theorem makeDirectories_of_directory {p : Path} {l : Location} (hl : w.locate p = .ok l)
    (hn : w.node? l = some .directory) : w.makeDirectories p = (w, none) := by
  have hensure : w.ensureDirectory p = .ok w := by
    have hmake : w.makeDirectory p = .error .exists := by
      simp only [makeDirectory, hl, bind, Except.bind, hn]
    have hdirectory : w.isDirectory p = .ok true := by
      rw [isDirectory, is, stat_of_locate hl hn]
    simp only [ensureDirectory, hmake, hdirectory]
  have htake : { p with parts := p.parts.take p.parts.length } = p := by rw [List.take_length]
  unfold makeDirectories
  cases hlength : p.parts.length with
  | zero =>
    have hnil : { p with parts := [] } = p := by rw [← List.eq_nil_of_length_eq_zero hlength]
    simp only [makeDirectoriesTo, hnil, hensure]
  | succ n =>
    rw [hlength] at htake
    simp only [makeDirectoriesTo, htake, hensure]

end Workspace

/-! ### Temporary files -/

namespace AtomicWrite

theorem decimalValue_leftpad (n : Nat) (cs : List Char) :
    decimalValue (cs.leftpad n '0') = decimalValue cs := by
  have hzeros (k : Nat) :
      (List.replicate k '0').foldl (fun n c => 10 * n + (c.toNat - 48)) 0 = 0 := by
    induction k with
    | zero => rfl
    | succ k ih => exact ih
  rw [List.leftpad, decimalValue, List.foldl_append, hzeros, decimalValue]

theorem temporaryName_injective (name : String) : (temporaryName name).Injective := by
  intro m n h
  have hlist := congrArg String.toList h
  simp only [temporaryName, String.toList_append, String.toList_ofList, List.append_assoc,
    List.append_cancel_left_eq, List.append_cancel_right_eq] at hlist
  have hvalue := congrArg decimalValue hlist
  rwa [decimalValue_leftpad, decimalValue_leftpad, Json.decimalValue_toDigits,
    Json.decimalValue_toDigits] at hvalue

/-- There are more candidates than entries, so that one of them is not taken. -/
theorem lookup_freshName (w : Workspace) (directory : Location) (name : String) :
    w.entries.lookup (directory ++ [freshName w directory name]) = none := by
  have hfound : ∃ n ∈ List.range (w.entries.length + 1),
      w.entries.lookup (directory ++ [temporaryName name n]) = none := by
    by_contra hno
    push Not at hno
    have hsub : (List.range (w.entries.length + 1)).map
        (fun n => directory ++ [temporaryName name n]) ⊆ w.entries.map Prod.fst := by
      intro l hl
      obtain ⟨n, hn, rfl⟩ := List.mem_map.1 hl
      by_contra hkey
      refine hno n hn (List.lookup_eq_none_iff.2 fun e he => bne_iff_ne.2 fun heq => hkey ?_)
      rw [heq]
      exact List.mem_map_of_mem he
    have hnodup : ((List.range (w.entries.length + 1)).map
        (fun n => directory ++ [temporaryName name n])).Nodup := by
      refine List.Nodup.map (fun m n h => temporaryName_injective name ?_) List.nodup_range
      simpa using h
    have hlen := (hnodup.subperm hsub).length_le
    rw [List.length_map, List.length_map, List.length_range] at hlen
    omega
  obtain ⟨n, hn, hnone⟩ := hfound
  dsimp only [freshName]
  cases hf : ((List.range (w.entries.length + 1)).map (temporaryName name)).find? fun c =>
      (w.entries.lookup (directory ++ [c])).isNone with
  | none =>
    have hall := List.find?_eq_none.1 hf _ (List.mem_map_of_mem hn)
    simp [hnone] at hall
  | some c =>
    have hc := List.find?_some hf
    exact Option.isNone_iff_eq_none.1 hc

theorem node?_freshName (w : Workspace) (directory : Location) (name : String) :
    w.node? (directory ++ [freshName w directory name]) = none := by
  have hne : (directory ++ [freshName w directory name]).isEmpty = false := by simp
  rw [Workspace.node?, hne]
  exact lookup_freshName w directory name

theorem Prepared.lookup_eq_none {w u : Workspace} {target : Path} {t : Location}
    (h : Prepared w target u t) : u.entries.lookup t = none := by
  obtain ⟨directory, -, rfl⟩ := h.temporary_eq
  exact lookup_freshName u directory target.name

theorem Prepared.node?_eq_none {w u : Workspace} {target : Path} {t : Location}
    (h : Prepared w target u t) : u.node? t = none := by
  obtain ⟨directory, -, rfl⟩ := h.temporary_eq
  exact node?_freshName u directory target.name

theorem remove_eq_self {w : Workspace} {t : Location} (h : w.entries.lookup t = none) :
    w.remove t = w := by
  have hkeys : w.entries.filter (fun e => e.1 != t) = w.entries := by
    rw [List.filter_eq_self]
    intro e he
    rw [bne_comm]
    exact List.lookup_eq_none_iff.1 h e he
  rw [Workspace.remove, hkeys]

/-- A temporary file that is removed again. -/
theorem remove_put {w : Workspace} {t : Location} (h : w.entries.lookup t = none) (n : Node) :
    (w.put t n).remove t = w := by
  rw [Workspace.remove_put_self, remove_eq_self h]

/-- A temporary file takes no directory away. -/
theorem Prepared.keepsDirectories_filled {w u : Workspace} {target : Path} {t : Location}
    (h : Prepared w target u t) (bytes : List UInt8) : u.KeepsDirectories (u.put t (.file bytes)) := by
  intro m hm
  have hne : m ≠ t := by
    rintro rfl
    rw [h.node?_eq_none] at hm
    cases hm
  rwa [Workspace.node?_put_of_ne u _ hne]

/-- A temporary file is no directory. -/
theorem Prepared.keepsDirectories_unfilled {w u : Workspace} {target : Path} {t : Location}
    (h : Prepared w target u t) (bytes : List UInt8) : (u.put t (.file bytes)).KeepsDirectories u := by
  intro m hm
  have hne : m ≠ t := by
    rintro rfl
    rw [Workspace.node?_put_self u _ h.ne_nil] at hm
    cases hm
  rwa [Workspace.node?_put_of_ne u _ hne] at hm

/-- A step is refused while the temporary file is open, and its closing is refused too. -/
def Fault.KeepsOpen (r : Fault) : Prop := r.step ∈ Attempt.openSteps ∧ r.closing.isSome = true

/-- **How a write fails.** It leaves the directories that were made for it and nothing else, with the
failure of the step that was refused or would have failed in any case. Only if the temporary file could
not be closed, it stays, with some of the first bytes, and the failure is that of the closing. -/
theorem run_error {fault : Option Fault} {w v : Workspace} {target : Path} {text : String}
    {f : FileFailure} (h : run fault w target text = (v, some f)) :
    ((v = w ∨ v = (w.makeDirectories target.parent).1) ∧
      ((∃ r ∈ fault, ¬ r.KeepsOpen ∧ f = ⟨r.error, []⟩) ∨ (run none w target text).2 = some f)) ∨
    ∃ u t landed, Prepared w target u t ∧ landed <+: Utf8.encode text.toList ∧
      v = u.put t (.file landed) ∧ f = ⟨.device, []⟩ ∧ ∃ r ∈ fault, r.KeepsOpen := by
  obtain ⟨u, g, hu, hcause, hfails⟩ | ⟨u, t, hprepared, hfilling⟩ :=
    performAll_cases fault w target (Utf8.encode text.toList)
  · rw [run, hfails] at h
    cases h
    refine .inl ⟨hu, hcause.imp ?_ fun hsame => ?_⟩
    · rintro ⟨r, hr, hstep, rfl⟩
      exact ⟨r, hr, fun hopen => hstep hopen.1, rfl⟩
    · rw [run, hsame]
      rfl
  · rw [run, hfilling] at h
    split at h
    · cases h
    rename_i b g hb
    obtain ⟨hfills, hopen⟩ := Attempt.fills_of_error hprepared.ne_nil hb
    by_cases hkeeps : ∃ r ∈ fault, r.KeepsOpen
    · obtain ⟨r, hr, hstep, hclosing⟩ := hkeeps
      obtain ⟨more, hmore⟩ := Option.isSome_iff_exists.1 hclosing
      obtain ⟨landed, hprefix, habandon⟩ :=
        hfills.abandon_of_refused hprepared.ne_nil (hopen.2 ⟨r, hr, hstep⟩) more
      rw [Option.mem_def.1 hr, Option.bind_some, hmore, habandon] at h
      cases h
      exact .inr ⟨u, t, landed, hprepared, hprefix, rfl, rfl, r, hr, hstep, hclosing⟩
    · have hclosed : b.isOpen = true → fault.bind (·.closing) = none := by
        intro ho
        obtain ⟨r, hr, hstep⟩ := hopen.1 ho
        rw [Option.mem_def.1 hr, Option.bind_some, ← Option.not_isSome_iff_eq_none]
        exact fun hclosing => hkeeps ⟨r, hr, hstep, hclosing⟩
      rw [hfills.abandon_of_closed hprepared.ne_nil hclosed, remove_eq_self hprepared.lookup_eq_none] at h
      obtain ⟨rfl, hfg⟩ := Prod.mk.inj h
      obtain rfl := Option.some.inj hfg
      refine .inl ⟨.inr (by rw [hprepared.made]), ?_⟩
      obtain ⟨r, hr, hfailure⟩ | hsame := Attempt.failure_performAll fault target
        (Utf8.encode text.toList) (Attempt.openSteps ++ [.close, .rename])
        { files := u.put t (.file []), temporary := some t, isOpen := true }
      · rw [hb] at hfailure
        exact .inl ⟨r, hr, fun hr' => hkeeps ⟨r, hr, hr'⟩, Option.some.inj hfailure⟩
      · rw [run, hprepared.performAll_none, ← hsame, hb]
        exact .inr (by simp only [Option.bind_none, b.snd_abandon_none, Option.none_or])

/-- What a write that fails leaves: directories, and no new file but a temporary one that could not be
closed. -/
inductive Leaves (fault : Option Fault) (w v : Workspace) : Prop
  | clean (gains : w.GainsDirectories v)
  | temporary (t : Location) (refused : ∃ r ∈ fault, r.KeepsOpen) (new : w.file? t = none)
      (others : ∀ l, l ≠ t → v.file? l = w.file? l)

namespace Leaves

variable {fault : Option Fault} {w u v : Workspace}

theorem gains (h : Leaves fault w v) (hfault : ∀ r ∈ fault, ¬ r.KeepsOpen) : w.GainsDirectories v := by
  cases h with
  | clean gains => exact gains
  | temporary t refused new others =>
    obtain ⟨r, hr, hkeeps⟩ := refused
    exact absurd hkeeps (hfault r hr)

/-- Directories that were made before a write do not matter. -/
theorem of_gains (hu : w.GainsDirectories u) (h : Leaves fault u v) : Leaves fault w v := by
  cases h with
  | clean gains => exact .clean (hu.trans gains)
  | temporary t refused new others =>
    exact .temporary t refused ((hu.files t).symm.trans new) fun l hl => (others l hl).trans (hu.files l)

end Leaves

/-- **A write that fails changes no file.** -/
theorem leaves_of_run_error {fault : Option Fault} {w v : Workspace} {target : Path} {text : String}
    {f : FileFailure} (h : run fault w target text = (v, some f)) : Leaves fault w v := by
  have hmake := w.makeDirectories_gains target.parent
  obtain ⟨rfl | rfl, -⟩ | ⟨u, t, landed, hprepared, -, rfl, -, hrefused⟩ := run_error h
  · exact .clean (.refl v)
  · exact .clean hmake
  · rw [hprepared.made] at hmake
    refine .of_gains hmake (.temporary t hrefused ?_ fun l hl => ?_)
    · exact Workspace.file?_of_none hprepared.node?_eq_none
    · exact Workspace.file?_congr (Workspace.node?_put_of_ne u _ hl)

theorem replace_eq {w : Workspace} (temporary : Location) {target : Path} {l : Location} {n : Node}
    (hentry : namesEntry target = true) (hl : w.locate target = .ok l)
    (hn : w.node? l ≠ some .directory) (ht : w.node? temporary = some n) :
    replace w temporary target = .ok ((w.remove temporary).put l n) := by
  unfold replace
  rw [hentry, hl]
  dsimp only [bind, Except.bind, pure, Except.pure, Bool.not_true]
  rw [if_neg (by simp), ht]
  split
  · rename_i h
    exact absurd h hn
  · rename_i h _
    cases h
    rfl
  · rename_i h _
    cases h

/-- **When a write succeeds**: the directory is there or can be made, the temporary file has a name that
is not too long, and no directory stands in the place of the file. -/
theorem run_eq {w u : Workspace} {target : Path} {directory l : Location}
    (hmake : w.makeDirectories target.parent = (u, none))
    (hdirectory : u.locate target.parent = .ok directory)
    (hnull : target.name.toList.contains (Char.ofNat 0) = false)
    (hshort : Workspace.byteLength (freshName u directory target.name) ≤ Workspace.maxNameBytes)
    (hentry : namesEntry target = true) (hl : u.locate target = .ok l)
    (hn : u.node? l ≠ some .directory) (text : String) :
    run none w target text = (u.put l (.file (Utf8.encode text.toList)), none) := by
  have hprepared : Prepared w target u (directory ++ [freshName u directory target.name]) := by
    refine ⟨hmake, ?_⟩
    unfold Attempt.createTemporary
    rw [hdirectory]
    dsimp only
    rw [hnull, if_neg (by simp), if_neg (by omega)]
  have hkeeps := hprepared.keepsDirectories_filled (Utf8.encode text.toList)
  have hback := hprepared.keepsDirectories_unfilled (Utf8.encode text.toList)
  have hreplace := replace_eq (directory ++ [freshName u directory target.name]) hentry
    (Workspace.locate_of_keepsDirectories hkeeps rfl hl) (fun h => hn (hback l h))
    (Workspace.node?_put_self _ _ (by simp))
  rw [remove_put hprepared.lookup_eq_none] at hreplace
  rw [run, hprepared.performAll_none, Attempt.performAll_filling hprepared.ne_nil]
  simp only [Attempt.performAll, Option.filter_none, Attempt.perform, Attempt.rename, hreplace]

end AtomicWrite

namespace Workspace

variable {w v : Workspace} {l : Location} {p : Path} {text : String}

theorem keepsDirectories_put (h : w.node? l ≠ some .directory) (n : Node) :
    w.KeepsDirectories (w.put l n) := by
  intro m hm
  have hml : m ≠ l := by
    rintro rfl
    exact h hm
  rwa [node?_put_of_ne _ _ hml]

/-- **A write that succeeds makes the directories above its file, and then the file.** -/
theorem eq_put_of_write {fault : Option AtomicWrite.Fault} (h : w.write p text fault = (v, none)) :
    ∃ u l, w.makeDirectories p.parent = (u, none) ∧ u.locate p = .ok l ∧
      u.node? l ≠ some .directory ∧ v = u.put l (.file (Utf8.encode text.toList)) := by
  obtain ⟨-, u, t, hprepared, hr⟩ := AtomicWrite.run_ok h
  obtain ⟨l, n, hl, hdir, hn, rfl⟩ := AtomicWrite.replace_ok hr
  rw [node?_put_self _ _ hprepared.ne_nil] at hn
  cases hn
  -- the temporary file is no directory, so paths lead where they led without it
  have hkeeps := hprepared.keepsDirectories_filled (Utf8.encode text.toList)
  have hback := hprepared.keepsDirectories_unfilled (Utf8.encode text.toList)
  refine ⟨u, l, hprepared.made, locate_of_keepsDirectories hback rfl hl,
    fun h => hdir (hkeeps l h), ?_⟩
  rw [AtomicWrite.remove_put hprepared.lookup_eq_none]

/-- A file that was written is found. -/
theorem locate_put {u : Workspace} (bytes : List UInt8) (hl : u.locate p = .ok l)
    (hdir : u.node? l ≠ some .directory) :
    (u.put l (.file bytes)).locate p = .ok l ∧
      (u.put l (.file bytes)).node? l = some (.file bytes) := by
  -- The root is a directory, which no file replaces.
  have hne : l ≠ [] := by
    rintro rfl
    exact hdir rfl
  exact ⟨locate_of_keepsDirectories (keepsDirectories_put hdir _) rfl hl, node?_put_self u _ hne⟩

/-- **A write that succeeds leaves the bytes of its text where its path leads.** -/
theorem stat_of_write {fault : Option AtomicWrite.Fault} (h : w.write p text fault = (v, none)) :
    v.stat p = .ok (.file (Utf8.encode text.toList)) := by
  obtain ⟨u, l, -, hl, hdir, rfl⟩ := eq_put_of_write h
  exact stat_of_locate (locate_put _ hl hdir).1 (locate_put _ hl hdir).2

/-- **A write that succeeds changes one file:** the one to which its path leads once the directories
above it have been made. -/
theorem write_ok {fault : Option AtomicWrite.Fault} (h : w.write p text fault = (v, none)) :
    ∃ l, (w.makeDirectories p.parent).1.locate p = .ok l ∧
      v.here = w.here ∧ w.KeepsDirectories v ∧ ∀ m, m ≠ l → v.file? m = w.file? m := by
  obtain ⟨u, l, hu, hl, hdir, rfl⟩ := eq_put_of_write h
  have hmake := w.makeDirectories_gains p.parent
  rw [hu] at hmake ⊢
  refine ⟨l, hl, hmake.here, fun m hm => ?_, fun m hm => ?_⟩
  · exact keepsDirectories_put hdir _ m (hmake.directories m hm)
  · exact (file?_congr (node?_put_of_ne u _ hm)).trans (hmake.files m)

/-- A path at which a new file can be made: a write there succeeds, and replaces no file. -/
structure TakesNewFile (w : Workspace) (p : Path) : Prop where
  writable : ∀ text, ∃ v, w.write p text = (v, none)
  fresh : ∀ l, (w.makeDirectories p.parent).1.locate p = .ok l → w.file? l = none

theorem TakesNewFile.of_locate {u : Workspace} {d l : Location}
    (hmake : w.makeDirectories p.parent = (u, none)) (hdirectory : u.locate p.parent = .ok d)
    (hnull : p.name.toList.contains (Char.ofNat 0) = false)
    (hshort : byteLength (AtomicWrite.freshName u d p.name) ≤ maxNameBytes)
    (hentry : AtomicWrite.namesEntry p = true) (hl : u.locate p = .ok l) (hnone : u.node? l = none) :
    w.TakesNewFile p := by
  refine ⟨fun text => ⟨_, AtomicWrite.run_eq hmake hdirectory hnull hshort hentry hl ?_ text⟩,
    fun m hm => ?_⟩
  · rw [hnone]
    simp
  · have hmake' := w.makeDirectories_gains p.parent
    rw [hmake] at hm hmake'
    rw [hl] at hm
    cases hm
    rw [← hmake'.files l, file?_of_none hnone]

theorem TakesNewFile.extends (hp : w.TakesNewFile p) {fault : Option AtomicWrite.Fault}
    (h : w.write p text fault = (v, none)) : w.Extends v := by
  obtain ⟨l, hl, hhere, hdirs, hfiles⟩ := write_ok h
  refine ⟨hhere, fun {m bytes} hm => ?_, hdirs⟩
  have hml : m ≠ l := by
    rintro rfl
    rw [hp.fresh m hl] at hm
    cases hm
  rw [hfiles m hml, hm]

end Workspace

end ScriptDoc
