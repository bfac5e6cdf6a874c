import ScriptDoc.Proofs.Files.Discovery
import ScriptDoc.Proofs.Source.Isolation

/-!
# Every file below a directory

The files below a directory are read one after the other, and some may be missing when it is their turn.  Each
of them ends up in one place: it is a unit, or a failure says why it is none.  What is generated is what the
files that are there give on their own.

* `Generation.Run.quiet`, a run without its notices, on which nothing else depends;
* `Generation.Run.foldlM_file`: a run over files is a run over the units of those that are there;
* `Discovery.stat_of_mem_files`, `Discovery.stat_of_mem_files_long`: what is found can be read, unless its path
  is too long;
* `Generation.fromDirectory_accounts`.
-/

namespace ScriptDoc

open ScriptDoc.Text

/-- Whether a path is too long for there to be a file. -/
def Path.isLong (p : Path) : Bool := decide (Workspace.maxPathBytes < Workspace.byteLength p.text)

/-! ### What is found can be read -/

namespace Discovery

variable {w : Workspace} {q : Query} {root p : Path} {base : Location}

/-- What is found is a file below the root, under names that files can have. -/
theorem names_of_mem_files (hw : w.IsTree) (hbase : w.node? base = some .directory)
    (h : p ∈ files w q root base) :
    ∃ names bytes, p = root.below names ∧ w.node? (base ++ names) = some (.file bytes) ∧
      names ≠ [] ∧ ∀ name ∈ names, IsName name := by
  obtain ⟨names, rfl, ⟨bytes, hbytes⟩, -⟩ := (mem_files hw hbase).1 h
  refine ⟨names, bytes, rfl, hbytes, ?_, fun name hname => ?_⟩
  · rintro rfl
    rw [List.append_nil, hbase] at hbytes
    cases hbytes
  · exact hw.isName hbytes (List.mem_append_right base hname)

theorem stat_of_mem_files (hw : w.IsTree) (hroot : w.locate root = .ok base)
    (hbase : w.node? base = some .directory) (h : p ∈ files w q root base) (hp : p.isLong = false) :
    ∃ bytes, w.stat p = .ok (.file bytes) := by
  obtain ⟨names, bytes, rfl, hbytes, -⟩ := names_of_mem_files hw hbase h
  have hshort := Nat.not_lt.1 (of_decide_eq_false hp)
  exact ⟨bytes, hw.stat_below hroot hbase hbytes hshort⟩

theorem stat_of_mem_files_long (hw : w.IsTree) (hroot : w.locate root = .ok base)
    (hbase : w.node? base = some .directory) (h : p ∈ files w q root base) (hp : p.isLong = true) :
    w.stat p = .error .nameTooLong := by
  obtain ⟨names, -, rfl, -, -, hnames⟩ := names_of_mem_files hw hbase h
  exact Workspace.stat_below_of_long hroot hnames (of_decide_eq_true hp)

/-- No two files are found under one text. -/
theorem nodup_text_files (hw : w.IsTree) (hbase : w.node? base = some .directory) :
    ((files w q root base).map Path.text).Nodup := by
  have hcomponents : ((files w q root base).map Path.components).Nodup := by
    refine (pairwise_components_files hw q root base).imp fun {a b} hlt heq => ?_
    exact List.lt_irrefl b (heq ▸ hlt)
  refine (hcomponents.of_map _).map_on fun p hp r hr heq => ?_
  obtain ⟨names, -, rfl, -, hne, hnames⟩ := names_of_mem_files hw hbase hp
  obtain ⟨others, -, rfl, -, hne', hothers⟩ := names_of_mem_files hw hbase hr
  rw [root.text_below_injective hne hne' hnames hothers heq]

end Discovery

namespace Generation

/-! ### Failures -/

theorem setFailure_of_notMem {key reason : String} {fs : List (String × String)}
    (h : key ∉ fs.map Prod.fst) : setFailure key reason fs = fs ++ [(key, reason)] := by
  induction fs with
  | nil => rfl
  | cons f fs ih =>
    obtain ⟨k, r⟩ := f
    rw [List.map_cons, List.mem_cons, not_or] at h
    rw [setFailure, if_neg (by simpa using Ne.symm h.1), ih h.2, List.cons_append]

/-- Failures of new keys come after those that are there. -/
theorem foldl_setFailure {fs gs : List (String × String)} (h : ((fs ++ gs).map Prod.fst).Nodup) :
    gs.foldl (fun fs f => setFailure f.1 f.2 fs) fs = fs ++ gs := by
  induction gs generalizing fs with
  | nil => rw [List.foldl_nil, List.append_nil]
  | cons g gs ih =>
    have hnew : g.1 ∉ fs.map Prod.fst := by
      rw [List.map_append, List.map_cons] at h
      exact fun hmem => List.disjoint_of_nodup_append h hmem List.mem_cons_self
    rw [List.append_cons] at h ⊢
    rw [List.foldl_cons, setFailure_of_notMem hnew, ih h]

/-! ### Runs without their notices -/

namespace Run

/-- A run without its notices. -/
def quiet (s : Run) : Run := { s with notices := [] }

theorem result_quiet (s : Run) : s.quiet.result = s.result := rfl

theorem quiet_note (s : Run) (n : Notice) : (s.note n).quiet = s.quiet := rfl

theorem quiet_add (identifier : String) (s : Run) (f : FunctionRecord) :
    (s.add identifier f).quiet = (s.quiet.add identifier f).quiet := by
  have hfunctions : s.quiet.functions = s.functions := rfl
  rw [Run.add, Run.add, hfunctions]
  cases findNamed? f.name s.functions <;> rfl

theorem quiet_foldl_add (identifier : String) (s : Run) (fs : List FunctionRecord) :
    (fs.foldl (Run.add identifier) s).quiet = (fs.foldl (Run.add identifier) s.quiet).quiet := by
  induction fs generalizing s with
  | nil => rfl
  | cons f fs ih =>
    rw [List.foldl_cons, List.foldl_cons, ih, quiet_add, ← ih]

/-- What a unit does to a run does not depend on the notices. -/
theorem quiet_unit (marker : String) (strict : Bool) (s : Run) (identifier : String)
    (lines : List String) :
    (s.unit marker strict identifier lines).quiet = (s.quiet.unit marker strict identifier lines).quiet := by
  unfold Run.unit
  generalize SourceUnit.parse marker strict identifier lines = p
  obtain ⟨result, notices⟩ := p
  cases result with
  | error e => rfl
  | ok r =>
    dsimp only
    rw [quiet_foldl_add, quiet_foldl_add identifier (ite _ _ _)]
    split <;> rfl

theorem quiet_foldl_unit (marker : String) (strict : Bool) (s : Run)
    (units : List (String × List String)) :
    (units.foldl (fun s u => s.unit marker strict u.1 u.2) s).quiet =
      (units.foldl (fun s u => s.unit marker strict u.1 u.2) s.quiet).quiet := by
  induction units generalizing s with
  | nil => rfl
  | cons u units ih => rw [List.foldl_cons, List.foldl_cons, ih, quiet_unit, ← ih]

end Run

/-! ### Files one after the other -/

section Files

variable {settings : ParserSettings} {w : Workspace} {gone paths : List Path} {p : Path}

/-- The lines of the file at a path. -/
def linesAt (w : Workspace) (p : Path) : List String :=
  (w.read p).toOption.elim [] fun bytes => splitLines (Workspace.lossyText bytes)

/-- The files that are still there, as units. -/
def presentUnits (w : Workspace) (gone paths : List Path) : List (String × List String) :=
  (paths.filter (· ∉ gone)).map fun p => (p.text, linesAt w p)

/-- The files that are missing, as failures. -/
def missingFailures (gone paths : List Path) : List (String × String) :=
  (paths.filter (· ∈ gone)).map fun p => (p.text, (Failure.sourceNotFound p.text).message)

theorem linesAt_of_stat {bytes : List UInt8} (h : w.stat p = .ok (.file bytes)) :
    linesAt w p = splitLines (Workspace.lossyText bytes) := by
  rw [linesAt, Workspace.read_of_stat h]
  rfl

theorem readLines_eq (h : ∃ bytes, w.stat p = .ok (.file bytes)) (missing : Failure) (s : Surroundings) :
    readLines missing p s w = (.ok (linesAt w p), w) := by
  obtain ⟨bytes, hbytes⟩ := h
  rw [readLines, Work.bind_of_ok (Work.inspect_of_ok (Workspace.isFile_of_stat hbytes)), if_pos rfl,
    Work.bind_of_ok (Work.inspect_of_ok (Workspace.read_of_stat hbytes)), linesAt_of_stat hbytes]
  rfl

namespace Run

/-- A file that is there is a unit. -/
theorem file_of_present (h : ∃ bytes, w.stat p = .ok (.file bytes)) (hp : p ∉ gone) (s : Run)
    (unread : List (String × String)) :
    file settings w gone (s, unread) p =
      .ok (s.unit settings.marker settings.strict p.text (linesAt w p), unread) := by
  obtain ⟨bytes, hbytes⟩ := h
  have hat : bytesAt w gone p = .ok bytes := by
    rw [bytesAt, Workspace.read_of_stat hbytes]
    exact if_neg (by simpa using hp)
  rw [file, hat, linesAt_of_stat hbytes]

/-- A file that is missing is a failure. -/
theorem file_of_missing (h : ∃ bytes, w.stat p = .ok (.file bytes)) (hp : p ∈ gone) (s : Run)
    (unread : List (String × String)) :
    file settings w gone (s, unread) p =
      let reason := (Failure.sourceNotFound p.text).message
      .ok (s.note (.unreadable p.text reason), setFailure p.text reason unread) := by
  obtain ⟨bytes, hbytes⟩ := h
  have hat : bytesAt w gone p = .error .notFound := by
    rw [bytesAt, Workspace.read_of_stat hbytes]
    exact if_pos (by simpa using hp)
  rw [file, hat]

/-- A run over files is a run over the units of those that are there, and a collection of failures of those
that are not. -/
theorem foldlM_file (settings : ParserSettings) (gone : List Path)
    (h : ∀ p ∈ paths, ∃ bytes, w.stat p = .ok (.file bytes)) (s : Run)
    (unread : List (String × String)) :
    ∃ t : Run, paths.foldlM (file settings w gone) (s, unread) =
        .ok (t, (missingFailures gone paths).foldl (fun fs f => setFailure f.1 f.2 fs) unread) ∧
      t.quiet = ((presentUnits w gone paths).foldl
        (fun s u => s.unit settings.marker settings.strict u.1 u.2) s).quiet := by
  induction paths generalizing s unread with
  | nil => exact ⟨s, rfl, rfl⟩
  | cons p paths ih =>
    rw [List.forall_mem_cons] at h
    rw [List.foldlM_cons, missingFailures, presentUnits]
    by_cases hp : p ∈ gone
    · rw [file_of_missing h.1 hp, List.filter_cons_of_pos (by simpa using hp),
        List.filter_cons_of_neg (by simpa using hp), ← presentUnits, List.map_cons, ← missingFailures]
      obtain ⟨t, ht, hquiet⟩ := ih h.2 _ _
      refine ⟨t, ht, ?_⟩
      -- the run goes on with one notice more, which no unit looks at
      rw [hquiet, quiet_foldl_unit, quiet_note, ← quiet_foldl_unit]
    · rw [file_of_present h.1 hp, List.filter_cons_of_neg (by simpa using hp),
        List.filter_cons_of_pos (by simpa using hp), ← missingFailures, List.map_cons, ← presentUnits]
      exact ih h.2 _ unread

/-- A path that is too long ends the run. -/
theorem foldlM_file_long (settings : ParserSettings) (gone : List Path) {before after : List Path}
    (hbefore : ∀ r ∈ before, ∃ bytes, w.stat r = .ok (.file bytes))
    (hp : w.stat p = .error .nameTooLong) :
    ∃ notices, (before ++ p :: after).foldlM (file settings w gone) ({}, []) =
      .error (⟨.nameTooLong, [p]⟩, notices) := by
  obtain ⟨t, ht, -⟩ := foldlM_file settings gone hbefore {} []
  refine ⟨t.notices, ?_⟩
  have hat : bytesAt w gone p = .error .nameTooLong := by
    rw [bytesAt, Workspace.read, hp]
    rfl
  rw [List.foldlM_append, ht]
  show (p :: after).foldlM (file settings w gone) (t, _) = _
  rw [List.foldlM_cons, file, hat]
  rfl

end Run

end Files

/-! ### Every file once -/

/-- A unit that is read to its end keeps its identifier. -/
theorem identifier_result {marker : String} {strict : Bool} {u : String × List String}
    (h : SourceUnit.reads marker strict u = true) :
    (SourceUnit.result marker strict u).map (·.identifier) = .ok u.1 := by
  rw [SourceUnit.reads] at h
  rw [SourceUnit.result, SourceUnit.parse] at h ⊢
  dsimp only at h ⊢
  split at h
  · cases h
  · rfl

/-- If no two units have one identifier, each is read to its end or is a failure. -/
theorem identifiers_generate (marker : String) (strict : Bool) {units : List (String × List String)}
    (hd : (units.map Prod.fst).Nodup) :
    let g := (generate marker strict units).1
    g.units.map (·.identifier) = (units.filter (SourceUnit.reads marker strict)).map Prod.fst ∧
      g.failures.map Prod.fst = (units.filter (!SourceUnit.reads marker strict ·)).map Prod.fst := by
  have h := Run.accounts_foldl marker strict units
  refine ⟨?_, h.failures.trans ?_⟩
  · have hresults : ((units.filter (SourceUnit.reads marker strict)).map
        (SourceUnit.result marker strict)).map (Except.map (·.identifier)) =
          ((units.filter (SourceUnit.reads marker strict)).map Prod.fst).map Except.ok := by
      rw [List.map_map, List.map_map]
      exact List.map_congr_left fun u hu => identifier_result (List.mem_filter.1 hu).2
    -- the units of a run are known by their readings only, so identifiers are compared as readings
    refine List.map_injective_iff.2 (fun _ _ he => Except.ok.inj he) (Eq.trans ?_ hresults)
    rw [← h.units, List.map_map, List.map_map]
    rfl
  · exact eraseDups_eq_self (hd.sublist (List.filter_sublist.map Prod.fst))

section Directory

variable {settings : Settings} {gone paths : List Path} {w : Workspace}

theorem fst_presentUnits (w : Workspace) (gone paths : List Path) :
    (presentUnits w gone paths).map Prod.fst = (paths.filter (· ∉ gone)).map Path.text := by
  rw [presentUnits, List.map_map]
  rfl

theorem fst_missingFailures (gone paths : List Path) :
    (missingFailures gone paths).map Prod.fst = (paths.filter (· ∈ gone)).map Path.text := by
  rw [missingFailures, List.map_map]
  rfl

/-- The units of the files that are there and the failures of the others account for all files. -/
theorem text_perm (w : Workspace) (gone paths : List Path) :
    ((presentUnits w gone paths).map Prod.fst ++ (missingFailures gone paths).map Prod.fst).Perm
      (paths.map Path.text) := by
  rw [fst_presentUnits, fst_missingFailures, ← List.map_append]
  refine List.Perm.map _ (List.perm_append_comm.trans ?_)
  simpa using List.filter_append_perm (· ∈ gone) paths

/-- Identifiers and keys of failures account for all files too. -/
theorem identifiers_perm (marker : String) (strict : Bool) (w : Workspace) (gone : List Path)
    (hd : (paths.map Path.text).Nodup) :
    let g := (generate marker strict (presentUnits w gone paths)).1
    (g.units.map (·.identifier) ++ (g.failures ++ missingFailures gone paths).map Prod.fst).Perm
      (paths.map Path.text) := by
  have hperm := text_perm w gone paths
  obtain ⟨hunits, hfailures⟩ :=
    identifiers_generate marker strict (List.nodup_append.1 (hperm.nodup_iff.2 hd)).1
  intro g
  rw [hunits, List.map_append, hfailures, ← List.append_assoc, ← List.map_append]
  exact (((List.filter_append_perm _ _).map Prod.fst).append_right _).trans hperm

theorem identifiers_sublist (marker : String) (strict : Bool) (w : Workspace) (gone : List Path)
    (hd : (paths.map Path.text).Nodup) :
    ((generate marker strict (presentUnits w gone paths)).1.units.map (·.identifier)).Sublist
      (paths.map Path.text) := by
  have hpresent := (List.nodup_append.1 ((text_perm w gone paths).nodup_iff.2 hd)).1
  rw [(identifiers_generate marker strict hpresent).1]
  refine (List.filter_sublist.map Prod.fst).trans ?_
  rw [fst_presentUnits]
  exact List.filter_sublist.map Path.text

/-- What is generated from files of which each is there or missing. -/
theorem fromFiles_eq (settings : ParserSettings) (gone : List Path)
    (h : ∀ p ∈ paths, ∃ bytes, w.stat p = .ok (.file bytes)) (hd : (paths.map Path.text).Nodup) :
    let g := (generate settings.marker settings.strict (presentUnits w gone paths)).1
    ∃ notices, fromFiles settings w gone paths =
      (.ok { g with failures := g.failures ++ missingFailures gone paths }, notices) := by
  intro g
  obtain ⟨t, ht, hquiet⟩ := Run.foldlM_file settings gone h {} []
  -- no failure is written over: neither a missing file fails twice nor one that is given up
  have hkeys : ((g.failures ++ missingFailures gone paths).map Prod.fst).Nodup :=
    (List.nodup_append.1 ((identifiers_perm _ _ w gone hd).nodup_iff.2 hd)).2.1
  have hmissing : ((missingFailures gone paths).map Prod.fst).Nodup := by
    rw [List.map_append] at hkeys
    exact (List.nodup_append.1 hkeys).2.1
  -- a result holds no notices, so that the two runs need not agree in them
  have hresult : t.result = g := by
    rw [← Run.result_quiet t, hquiet]
    rfl
  have hfailures : t.failures = g.failures := congrArg Generation.failures hresult
  refine ⟨t.notices, ?_⟩
  rw [foldl_setFailure hmissing, List.nil_append] at ht
  rw [fromFiles, ht]
  dsimp only
  rw [hfailures, foldl_setFailure hkeys, hresult]

/-- A directory gives what the files give that are found below it. -/
theorem fromDirectory_eq {root : String} {s : Surroundings}
    (hd : Discovery.discover settings.discovery root s w = (.ok paths, w)) (gone : List Path) :
    fromDirectory settings gone root s w =
      match fromFiles settings.parser w gone paths with
      | (.ok g, notices) => (.ok (g, .found paths.length root :: notices), w)
      | (.error f, _) => (.error (.accident (.files f)), w) := by
  have hsweep : sweep settings gone root s w =
      (.ok ((fromFiles settings.parser w gone paths).1,
        .found paths.length root :: (fromFiles settings.parser w gone paths).2), w) := by
    rw [sweep, Work.bind_of_ok hd]
    rfl
  rw [fromDirectory, Work.bind_of_ok hsweep]
  rcases fromFiles settings.parser w gone paths with ⟨_ | g, notices⟩ <;> rfl

/-- A path that is too long ends it all. -/
theorem fromDirectory_of_long {root : String} {s : Surroundings} {p : Path} (hw : w.IsTree)
    (hd : Discovery.discover settings.discovery root s w = (.ok paths, w))
    (hp : paths.find? Path.isLong = some p) (gone : List Path) :
    fromDirectory settings gone root s w = (.error (.accident (.files ⟨.nameTooLong, [p]⟩)), w) := by
  obtain ⟨q, base, hroot, hbase, hpaths⟩ := Discovery.of_discover_eq_ok hd
  obtain ⟨hlong, before, after, happend, hbefore⟩ := List.find?_eq_some_iff_append.1 hp
  have hstat : w.stat p = .error .nameTooLong :=
    Discovery.stat_of_mem_files_long hw hroot hbase (hpaths ▸ List.mem_of_find?_eq_some hp) hlong
  have hshort : ∀ r ∈ before, ∃ bytes, w.stat r = .ok (.file bytes) := by
    intro r hr
    have hmem : r ∈ paths := happend ▸ List.mem_append_left _ hr
    exact Discovery.stat_of_mem_files hw hroot hbase (hpaths ▸ hmem) (by simpa using hbefore r hr)
  obtain ⟨notices, hrun⟩ := Run.foldlM_file_long settings.parser gone hshort hstat
  rw [fromDirectory_eq hd, fromFiles, happend, hrun]

/-- **Every file that is found ends up in one place**, as a unit or as a failure, and what is generated is
what the files that are still there give on their own; their units are in the order in which they were found.
But a path that is too long ends it all. -/
theorem fromDirectory_accounts {root : String} {s : Surroundings} (hw : w.IsTree)
    (hd : Discovery.discover settings.discovery root s w = (.ok paths, w)) :
    let g := (generate settings.parser.marker settings.parser.strict (presentUnits w gone paths)).1
    (∀ p, paths.find? Path.isLong = some p →
      fromDirectory settings gone root s w = (.error (.accident (.files ⟨.nameTooLong, [p]⟩)), w)) ∧
    ((∀ p ∈ paths, p.isLong = false) →
      (∀ p ∈ paths, readLines (.sourceNotFound p.text) p s w = (.ok (linesAt w p), w)) ∧
      ∃ result notices, fromDirectory settings gone root s w = (.ok (result, notices), w) ∧
        (paths.map Path.text).Nodup ∧
        (result.units.map (·.identifier) ++ result.failures.map Prod.fst).Perm (paths.map Path.text) ∧
        (result.units.map (·.identifier)).Sublist (paths.map Path.text) ∧
        result.document = g.document ∧ result.units = g.units ∧ result.diagnostics = g.diagnostics ∧
        result.failures = g.failures ++ missingFailures gone paths) := by
  obtain ⟨q, base, hroot, hbase, hpaths⟩ := Discovery.of_discover_eq_ok hd
  have hnodup : (paths.map Path.text).Nodup := by
    rw [hpaths]
    exact Discovery.nodup_text_files hw hbase
  intro g
  refine ⟨fun p hp => fromDirectory_of_long hw hd hp gone, fun hshort => ?_⟩
  have hstat : ∀ p ∈ paths, ∃ bytes, w.stat p = .ok (.file bytes) := fun p hp =>
    Discovery.stat_of_mem_files hw hroot hbase (hpaths ▸ hp) (hshort p hp)
  obtain ⟨notices, hfiles⟩ := fromFiles_eq settings.parser gone hstat hnodup
  refine ⟨fun p hp => readLines_eq (hstat p hp) _ s,
    { g with failures := g.failures ++ missingFailures gone paths },
    .found paths.length root :: notices, ?_, hnodup, identifiers_perm _ _ w gone hnodup,
    identifiers_sublist _ _ w gone hnodup, rfl, rfl, rfl, rfl⟩
  rw [fromDirectory_eq hd, hfiles]

/-- One file is read, one is missing when it is its turn, and the last one is given up. -/
theorem fromDirectory_accounts_mixed :
    let w : Workspace := { entries := [(["src"], .directory),
      (["src", "a.scar"], .file (Utf8.encode "--\nfunction Run (x)".toList)),
      (["src", "b.scar"], .file []),
      (["src", "c.scar"], .file (Utf8.encode "--@args\nfunction Stop (x)".toList))] }
    let settings : Settings := { parser := { marker := "--", strict := true } }
    let paths : List Path := [⟨"", ["src", "a.scar"]⟩, ⟨"", ["src", "b.scar"]⟩, ⟨"", ["src", "c.scar"]⟩]
    w.IsTree ∧ Discovery.discover settings.discovery "src" {} w = (.ok paths, w) ∧
      (∀ p ∈ paths, p.isLong = false) ∧ ∃ result notices,
        fromDirectory settings [⟨"", ["src", "b.scar"]⟩] "src" {} w = (.ok (result, notices), w) ∧
        result.units.map (·.identifier) = ["src/a.scar"] ∧
        result.failures.map Prod.fst = ["src/c.scar", "src/b.scar"] := by
  intro w settings paths
  have hw : w.IsTree := by decide +kernel
  have hd : Discovery.discover settings.discovery "src" {} w = (.ok paths, w) := by
    have hlines : Discovery.ignoreLines? settings.discovery w ["src"] = none := by decide +kernel
    have h : Discovery.Accepted Ignore.compile settings.discovery (Path.ofString "src") w ["src"]
        (fun _ => false) (fun _ => false) :=
      ⟨by decide +kernel, by decide +kernel, rfl, by rw [hlines]; rfl, by decide +kernel⟩
    have hwalk : (Discovery.walk w (Discovery.queryOf settings.discovery (fun _ => false)
        (fun _ => false)) (Path.ofString "src")
        ["src"] (Discovery.depthBound w) []).map (Path.ofString "src").below = paths := by decide +kernel
    rw [Discovery.discover_eq (s := {}) hw h, Discovery.files, hwalk,
      List.mergeSort_of_pairwise (by decide +kernel)]
  have hshort : ∀ p ∈ paths, p.isLong = false := by decide +kernel
  obtain ⟨-, result, notices, hresult, -, -, -, -, hunits, -, hfailures⟩ :=
    (fromDirectory_accounts hw hd).2 hshort
  refine ⟨hw, hd, hshort, result, notices, hresult, ?_⟩
  rw [hunits, hfailures]
  decide +kernel

end Directory

/-! ### A file that is found and not read -/

/-- A file in a directory that is reached with so many detours that its path is too long and that of the
directory is not. -/
theorem fromDirectory_detour {n : Nat} (hn : 5 * n + 12 ≤ Workspace.maxPathBytes)
    (hlong : Workspace.maxPathBytes < 5 * n + 21) :
    let w : Workspace := { entries := [(["a"], .directory), (["a", "long_file_name.scar"], .file [])] }
    let settings : Settings := {}
    let p := (Path.ofString (Discovery.detourText n)).below ["long_file_name.scar"]
    w.IsTree ∧ Discovery.discover settings.discovery (Discovery.detourText n) {} w = (.ok [p], w) ∧
      fromDirectory settings [] (Discovery.detourText n) {} w =
        (.error (.accident (.files ⟨.nameTooLong, [p]⟩)), w) := by
  intro w settings p
  have hw : w.IsTree := by decide +kernel
  have h : Discovery.Accepted Ignore.compile settings.discovery (Path.ofString (Discovery.detourText n)) w
      ["a"] (fun _ => false) (fun _ => false) :=
    Discovery.accepted_detour rfl (by decide +kernel) (by decide +kernel) hn
  have hp : p.isLong = true := by
    have hlength : Workspace.byteLength (Discovery.relativeText ["long_file_name.scar"]) = 19 := by
      decide +kernel
    rw [Path.isLong, Discovery.byteLength_below_detour n (List.cons_ne_nil _ _), hlength, decide_eq_true_eq]
    exact hlong
  have hwalk : Discovery.walk w
      (Discovery.queryOf settings.discovery (fun _ => false) (fun _ => false)) (Path.ofString (Discovery.detourText n)) ["a"] (Discovery.depthBound w) [] =
        [["long_file_name.scar"]] := by
    have hdepth : Discovery.depthBound w = 2 + 1 := rfl
    have hchildren : w.children (["a"] ++ []) = [("long_file_name.scar", .file [])] := by decide +kernel
    have hlists : (Discovery.queryOf settings.discovery (fun _ => false) (fun _ => false)).lists
        ([] ++ ["long_file_name.scar"]) = true := by decide +kernel
    rw [hdepth, Discovery.walk_succ, if_pos (Discovery.opens_detour (by omega)), hchildren,
      List.flatMap_singleton, Discovery.branch, if_pos hlists, List.nil_append]
  have hd : Discovery.discover settings.discovery (Discovery.detourText n) {} w = (.ok [p], w) := by
    rw [Discovery.discover_eq (s := {}) hw h, Discovery.files, hwalk, List.map_singleton,
      List.mergeSort_singleton]
  exact ⟨hw, hd, fromDirectory_of_long hw hd (List.find?_cons_of_pos hp) []⟩

/-- With 816 detours the path of the file has 4101 bytes: it is found, and nothing is generated. -/
theorem fromDirectory_stops_far :
    let w : Workspace := { entries := [(["a"], .directory), (["a", "long_file_name.scar"], .file [])] }
    let settings : Settings := {}
    let p := (Path.ofString (Discovery.detourText 816)).below ["long_file_name.scar"]
    w.IsTree ∧ Discovery.discover settings.discovery (Discovery.detourText 816) {} w = (.ok [p], w) ∧
      fromDirectory settings [] (Discovery.detourText 816) {} w =
        (.error (.accident (.files ⟨.nameTooLong, [p]⟩)), w) :=
  fromDirectory_detour (by decide) (by decide)

end Generation

end ScriptDoc
