import Mathlib.Data.List.Nodup
import ScriptDoc.Proofs.Data.Buckets
import ScriptDoc.Proofs.Files.Tree
import ScriptDoc.Proofs.Work
import ScriptDoc.Source.Reading

/-!
# Which files are found

A walk goes down from a root and leaves out whole directories. Whether it lists a file can be told from
the file alone: from its own name and path, and from those of the directories on the way to it. Nothing
is said of the language of ignore patterns: whatever some lines of it leave out, that is left out.

* `Above`, the directories on the way to a file;
* `mem_walk`: what a walk lists, and `nodup_walk`: nothing twice;
* `Accepted`, what the patterns leave out, `Eligible`, the files that are looked for, and `Openable`,
  that no directory on the way has a path that is too long;
* `discover_eq`, `of_discover_eq_ok`: what is found is what a walk lists;
* `discover_eligible`: the files that are found, in the order of their paths, and whatever the order in
  which directories list them. -/

namespace ScriptDoc

/-! ### The order of paths -/

namespace Path

/-- The parts of a path by which it is put in order. -/
def components (p : Path) : List String := if p.root == "" then p.parts else p.root :: p.parts

theorem le_iff {p q : Path} : Path.le p q = true ↔ ¬ q.components < p.components :=
  decide_eq_true_iff

theorem components_below_injective (p : Path) {names others : List String}
    (h : (p.below names).components = (p.below others).components) : names = others := by
  unfold components below at h
  split at h
  · exact List.append_cancel_left h
  · exact List.append_cancel_left (List.cons.inj h).2

/-- Sorted paths with different parts increase strictly. -/
theorem pairwise_lt_mergeSort {ps : List Path} (hd : (ps.map components).Nodup) :
    ((ps.mergeSort Path.le).map components).Pairwise (· < ·) := by
  have htrans (p q r : Path) (hpq : Path.le p q = true) (hqr : Path.le q r = true) :
      Path.le p r = true := by
    rw [le_iff, List.not_lt] at hpq hqr ⊢
    exact List.le_trans hpq hqr
  have htotal (p q : Path) : (Path.le p q || Path.le q p) = true := by
    rw [Bool.or_eq_true, le_iff, le_iff, List.not_lt, List.not_lt]
    exact List.le_total _ _
  have hle : ((ps.mergeSort Path.le).map components).Pairwise fun a b => ¬ b < a := by
    rw [List.pairwise_map]
    exact (List.pairwise_mergeSort htrans htotal ps).imp le_iff.1
  have hne : ((ps.mergeSort Path.le).map components).Nodup :=
    ((List.mergeSort_perm ps Path.le).map components).nodup_iff.2 hd
  -- what does not decrease and has no repetition increases
  refine (hle.and hne).imp fun {a b} h => ?_
  by_contra hlt
  exact h.2 (List.le_antisymm (List.not_lt.1 h.1) (List.not_lt.1 hlt))

end Path

namespace Discovery

open ScriptDoc.Text

/-! ### Directories on the way -/

/-- A directory on the way to a file: the names of the one are the first names of the other, but not all
of them. -/
def Above (ds names : List String) : Prop := ds <+: names ∧ ds ≠ names

instance (ds names : List String) : Decidable (Above ds names) := inferInstanceAs (Decidable (_ ∧ _))

theorem not_above_nil (ds : List String) : ¬ Above ds [] := fun h => h.2 (List.prefix_nil.1 h.1)

theorem above_cons {ds names : List String} {name : String} :
    Above ds (name :: names) ↔ ds = [] ∨ ∃ rest, ds = name :: rest ∧ Above rest names := by
  unfold Above
  rw [List.prefix_cons_iff]
  constructor
  · rintro ⟨rfl | ⟨rest, rfl, hrest⟩, hne⟩
    · exact .inl rfl
    · exact .inr ⟨rest, rfl, hrest, fun h => hne (h ▸ rfl)⟩
  · rintro (rfl | ⟨rest, rfl, hrest, hne⟩)
    · exact ⟨.inl rfl, (List.cons_ne_nil _ _).symm⟩
    · exact ⟨.inr ⟨rest, rfl, hrest⟩, fun h => hne (List.cons.inj h).2⟩

/-! ### One directory -/

section Walk

variable {w : Workspace} {q : Query} {root : Path} {base : Location} {depth : Nat} {names : List String}

/-- What a walk lists for one entry of a directory. -/
def branch (w : Workspace) (q : Query) (root : Path) (base : Location) (depth : Nat)
    (names : List String) : String × Node → List (List String)
  | (name, .file _) => if q.lists (names ++ [name]) then [names ++ [name]] else []
  | (name, .directory) =>
    if q.enters (names ++ [name]) then walk w q root base depth (names ++ [name]) else []

theorem walk_succ (w : Workspace) (q : Query) (root : Path) (base : Location) (depth : Nat)
    (names : List String) :
    walk w q root base (depth + 1) names =
      if opens root names then
        (w.children (base ++ names)).flatMap (branch w q root base depth names)
      else [] := rfl

/-- A directory lists its files, and what is below those of its directories that are entered. -/
theorem mem_walk_succ (hw : w.IsTree) {found : List String} :
    found ∈ walk w q root base (depth + 1) names ↔
      opens root names = true ∧ ∃ name,
        ((∃ bytes, w.node? (base ++ names ++ [name]) = some (.file bytes)) ∧
          q.lists (names ++ [name]) = true ∧ found = names ++ [name]) ∨
        (w.node? (base ++ names ++ [name]) = some .directory ∧
          q.enters (names ++ [name]) = true ∧
          found ∈ walk w q root base depth (names ++ [name])) := by
  rw [walk_succ]
  split
  · next hopens =>
    rw [List.mem_flatMap]
    simp only [hopens, true_and]
    constructor
    · rintro ⟨⟨name, n⟩, hchild, hfound⟩
      rw [hw.mem_children] at hchild
      refine ⟨name, ?_⟩
      cases n with
      | file bytes =>
        obtain ⟨hlists, rfl⟩ : q.lists (names ++ [name]) = true ∧ found = names ++ [name] := by
          simpa [branch] using hfound
        exact .inl ⟨⟨bytes, hchild⟩, hlists, rfl⟩
      | directory => exact .inr ⟨hchild, by simpa [branch] using hfound⟩
    · rintro ⟨name, ⟨⟨bytes, hfile⟩, hlists, rfl⟩ | ⟨hdirectory, henters, hfound⟩⟩
      · exact ⟨(name, .file bytes), hw.mem_children.2 hfile, by simp [branch, hlists]⟩
      · exact ⟨(name, .directory), hw.mem_children.2 hdirectory, by simpa [branch, henters] using hfound⟩
  · next hopens => simp [hopens]

/-! ### Whole walks -/

/-- A walk lists a file if it lists it by its name, and opens and enters each directory on the way. -/
theorem mem_walk (hw : w.IsTree) {found : List String} :
    found ∈ walk w q root base depth names ↔
      ∃ more, found = names ++ more ∧ more ≠ [] ∧ more.length ≤ depth ∧
        (∃ bytes, w.node? (base ++ names ++ more) = some (.file bytes)) ∧
        q.lists (names ++ more) = true ∧
        ∀ ds, Above ds more →
          opens root (names ++ ds) = true ∧ (ds ≠ [] → q.enters (names ++ ds) = true) := by
  induction depth generalizing names with
  | zero =>
    refine iff_of_false (List.not_mem_nil) ?_
    rintro ⟨more, -, hne, hlength, -⟩
    exact hne (List.length_eq_zero_iff.1 (Nat.le_zero.1 hlength))
  | succ depth ih =>
    rw [mem_walk_succ hw]
    constructor
    · rintro ⟨hopens, name, ⟨hfile, hlists, rfl⟩ | ⟨-, henters, hfound⟩⟩
      · refine ⟨[name], rfl, List.cons_ne_nil _ _, by simp, hfile, hlists, fun ds hds => ?_⟩
        obtain rfl | ⟨rest, -, hrest⟩ := above_cons.1 hds
        · simpa using hopens
        · exact absurd hrest (not_above_nil rest)
      · obtain ⟨more, rfl, hne, hlength, hfile, hlists, hway⟩ := ih.1 hfound
        simp only [List.append_assoc, List.singleton_append] at hfile hlists hway ⊢
        refine ⟨name :: more, rfl, List.cons_ne_nil _ _, by simpa using hlength, hfile, hlists,
          fun ds hds => ?_⟩
        obtain rfl | ⟨rest, rfl, hrest⟩ := above_cons.1 hds
        · simpa using hopens
        · refine ⟨(hway rest hrest).1, fun _ => ?_⟩
          cases rest with
          | nil => exact henters
          | cons r rest => exact (hway _ hrest).2 (List.cons_ne_nil _ _)
    · rintro ⟨more, rfl, hne, hlength, hfile, hlists, hway⟩
      cases more with
      | nil => exact absurd rfl hne
      | cons name more =>
        refine ⟨by simpa using (hway [] (above_cons.2 (.inl rfl))).1, name, ?_⟩
        by_cases hnil : more = []
        · subst hnil
          exact .inl ⟨hfile, hlists, rfl⟩
        · -- what is not listed here is below a directory, as the workspace is a tree
          obtain ⟨bytes, hbytes⟩ := hfile
          have hbelow : w.node? (base ++ names ++ [name] ++ more) = some (.file bytes) := by
            simpa using hbytes
          have hup : Above [name] (name :: more) :=
            above_cons.2 (.inr ⟨[], rfl, List.nil_prefix, Ne.symm hnil⟩)
          refine .inr ⟨hw.directory_above hnil hbelow, (hway _ hup).2 (List.cons_ne_nil _ _),
            ih.2 ⟨more, by simp, hnil, by simpa using hlength, ⟨bytes, by simpa using hbytes⟩,
              by simpa using hlists, fun ds hds => ?_⟩⟩
          have hds' := hway (name :: ds) (above_cons.2 (.inr ⟨ds, rfl, hds⟩))
          simpa using ⟨hds'.1, fun _ : ds ≠ [] => hds'.2 (List.cons_ne_nil _ _)⟩

theorem prefix_of_mem_branch (hw : w.IsTree) {child : String × Node} {found : List String}
    (h : found ∈ branch w q root base depth names child) : names ++ [child.1] <+: found := by
  obtain ⟨name, n⟩ := child
  cases n with
  | file bytes =>
    obtain ⟨-, rfl⟩ : q.lists (names ++ [name]) = true ∧ found = names ++ [name] := by
      simpa [branch] using h
    exact List.prefix_refl _
  | directory =>
    obtain ⟨-, hfound⟩ : q.enters (names ++ [name]) = true ∧
        found ∈ walk w q root base depth (names ++ [name]) := by simpa [branch] using h
    obtain ⟨more, rfl, -⟩ := (mem_walk hw).1 hfound
    exact List.prefix_append _ _

/-- A walk lists nothing twice: what it lists for two entries of a directory differs in their names. -/
theorem nodup_walk (hw : w.IsTree) : (walk w q root base depth names).Nodup := by
  induction depth generalizing names with
  | zero => exact List.nodup_nil
  | succ depth ih =>
    rw [walk_succ]
    split
    · refine List.nodup_flatMap.2 ⟨fun child _ => ?_, ?_⟩
      · obtain ⟨name, n⟩ := child
        cases n with
        | file bytes =>
          rw [branch]
          split
          · exact List.nodup_singleton _
          · exact List.nodup_nil
        | directory =>
          rw [branch]
          split
          · exact ih
          · exact List.nodup_nil
      · refine (List.pairwise_map.1 (hw.nodup_children (base ++ names))).imp ?_
        intro child other hne found hchild hother
        -- a file that is listed for both goes on with both names at one place
        have hlength : (names ++ [child.1]).length = (names ++ [other.1]).length := by simp
        have hprefix := List.prefix_of_prefix_length_le (prefix_of_mem_branch hw hchild)
          (prefix_of_mem_branch hw hother) (Nat.le_of_eq hlength)
        exact hne (by simpa using hprefix.eq_of_length hlength)
    · exact List.nodup_nil

/-- No location is deeper than a walk can go. -/
theorem length_lt_depthBound {e : Location × Node} (h : e ∈ w.entries) : e.1.length < depthBound w := by
  have hfold (lengths : List Nat) (start : Nat) :
      start ≤ lengths.foldl max start ∧ ∀ n ∈ lengths, n ≤ lengths.foldl max start := by
    induction lengths generalizing start with
    | nil => simp
    | cons m lengths ih =>
      obtain ⟨hstart, hall⟩ := ih (max start m)
      refine ⟨Nat.le_trans (Nat.le_max_left _ _) hstart, List.forall_mem_cons.2 ⟨?_, hall⟩⟩
      exact Nat.le_trans (Nat.le_max_right _ _) hstart
  exact Nat.lt_succ_of_le ((hfold _ 0).2 _ (List.mem_map_of_mem h))

/-- What a walk lists from its root on. -/
theorem mem_walk_nil (hw : w.IsTree) (hbase : w.node? base = some .directory) :
    names ∈ walk w q root base (depthBound w) [] ↔
      (∃ bytes, w.node? (base ++ names) = some (.file bytes)) ∧ q.lists names = true ∧
        ∀ ds, Above ds names → opens root ds = true ∧ (ds ≠ [] → q.enters ds = true) := by
  rw [mem_walk hw]
  simp only [List.nil_append, List.append_nil]
  constructor
  · rintro ⟨more, rfl, -, -, hrest⟩
    exact hrest
  · rintro ⟨⟨bytes, hfile⟩, hrest⟩
    have hne : names ≠ [] := by
      rintro rfl
      rw [List.append_nil, hbase] at hfile
      cases hfile
    have hdepth := length_lt_depthBound ((hw.node?_eq_some (by simp [hne])).1 hfile)
    rw [List.length_append] at hdepth
    exact ⟨names, rfl, hne, by omega, ⟨bytes, hfile⟩, hrest⟩

end Walk

/-! ### Looking for files -/

theorem looks_compiled (lines : List String) : Work.Looks (compiled lines) := by
  refine Work.looks_surroundings.bind fun s => ?_
  split
  · exact Work.looks_pure _
  · exact Work.looks_crash _

theorem looks_excludedBy (settings : DiscoverySettings) : Work.Looks (excludedBy settings) := by
  unfold excludedBy
  split
  · exact Work.looks_pure _
  · exact looks_compiled _

theorem looks_ignoreFile (root : Path) : Work.Looks (ignoreFile root) := by
  refine (Work.looks_inspect _ _).bind fun isFile => ?_
  split
  · exact (Work.looks_inspect _ _).bind fun _ => looks_compiled _
  · exact Work.looks_pure _

theorem looks_ignoredBy (settings : DiscoverySettings) (root : Path) :
    Work.Looks (ignoredBy settings root) := by
  unfold ignoredBy
  split
  · exact looks_ignoreFile _
  · exact Work.looks_pure _

section Files

variable {w v : Workspace} {q : Query} {root p : Path} {base : Location} {settings : DiscoverySettings}
  {patterns : List String → Except Ignore.PatternError (String → Bool)} {excluded ignored : String → Bool}

theorem mem_files (hw : w.IsTree) (hbase : w.node? base = some .directory) :
    p ∈ files w q root base ↔ ∃ names, p = root.below names ∧
      (∃ bytes, w.node? (base ++ names) = some (.file bytes)) ∧ q.lists names = true ∧
        ∀ ds, Above ds names → opens root ds = true ∧ (ds ≠ [] → q.enters ds = true) := by
  rw [files, List.mem_mergeSort, List.mem_map]
  simp only [mem_walk_nil hw hbase, and_comm, eq_comm]

theorem pairwise_components_files (hw : w.IsTree) (q : Query) (root : Path) (base : Location) :
    ((files w q root base).map Path.components).Pairwise (· < ·) := by
  refine Path.pairwise_lt_mergeSort ?_
  rw [List.map_map]
  exact (nodup_walk hw).map fun _ _ h => root.components_below_injective h

/-- What the patterns of some lines leave out; nothing where there are no lines at all. -/
def leftOutBy (patterns : List String → Except Ignore.PatternError (String → Bool)) :
    Option (List String) → Except Ignore.PatternError (String → Bool)
  | none => .ok fun _ => false
  | some lines => patterns lines

/-- The lines of excluded patterns, if there are any. -/
def excludeLines? (settings : DiscoverySettings) : Option (List String) :=
  if settings.exclude.isEmpty then none else some settings.exclude

/-- The lines of the ignore file in a directory, if there is such a file and it counts. -/
def ignoreLines? (settings : DiscoverySettings) (w : Workspace) (base : Location) : Option (List String) :=
  if settings.respectIgnoreFile then
    (w.file? (base ++ [".gitignore"])).map fun bytes => splitLines (Workspace.lossyText bytes)
  else none

/-- The root is a directory, and all patterns are accepted, those that are excluded and those of the
ignore file if it counts. They leave out the paths of `excluded` and `ignored`. -/
structure Accepted (patterns : List String → Except Ignore.PatternError (String → Bool))
    (settings : DiscoverySettings) (root : Path) (w : Workspace) (base : Location)
    (excluded ignored : String → Bool) : Prop where
  located : w.locate root = .ok base
  directory : w.node? base = some .directory
  excluded : leftOutBy patterns (excludeLines? settings) = .ok excluded
  ignored : leftOutBy patterns (ignoreLines? settings w base) = .ok ignored
  short : settings.respectIgnoreFile = true →
    Workspace.byteLength (root.child ".gitignore").text ≤ Workspace.maxPathBytes

/-- The files that are looked for: one of the suffixes fits, and neither the file nor a directory on the
way to it is left out. -/
structure Eligible (settings : DiscoverySettings) (excluded ignored : String → Bool)
    (names : List String) : Prop where
  suffix : ∃ extension ∈ settings.extensions,
    lowered (Path.suffixOf (names.getLastD "")) = suffixOfExtension extension
  directories : ∀ ds, Above ds names → ds ≠ [] → ds.getLastD "" ∉ skippedNames ∧
    excluded (relativeText ds ++ "/") = false ∧ ignored (relativeText ds ++ "/") = false
  file : excluded (relativeText names) = false ∧ ignored (relativeText names) = false

/-- No directory on the way to a file has a path that is too long. -/
def Openable (root : Path) (names : List String) : Prop :=
  ∀ ds, Above ds names → Workspace.byteLength (openedAs root ds) ≤ Workspace.maxPathBytes

/-- What a walk looks for by some settings. -/
def queryOf (settings : DiscoverySettings) (excluded ignored : String → Bool) : Query :=
  ⟨settings.extensions.map suffixOfExtension, [excluded, ignored]⟩

theorem leavesOut_queryOf (path : String) :
    (queryOf settings excluded ignored).leavesOut path = false ↔
      excluded path = false ∧ ignored path = false := by
  simp [Query.leavesOut, queryOf]

theorem eligible_iff {names : List String} :
    Eligible settings excluded ignored names ∧ Openable root names ↔
      (queryOf settings excluded ignored).lists names = true ∧
        ∀ ds, Above ds names → opens root ds = true ∧
          (ds ≠ [] → (queryOf settings excluded ignored).enters ds = true) := by
  have hlists : (queryOf settings excluded ignored).lists names = true ↔
      (∃ extension ∈ settings.extensions,
        lowered (Path.suffixOf (names.getLastD "")) = suffixOfExtension extension) ∧
      excluded (relativeText names) = false ∧ ignored (relativeText names) = false := by
    rw [Query.lists, Bool.and_eq_true, Bool.not_eq_true', leavesOut_queryOf, List.contains_iff_mem,
      queryOf, List.mem_map]
    simp only [eq_comm]
  have henters (ds : List String) : (queryOf settings excluded ignored).enters ds = true ↔
      ds.getLastD "" ∉ skippedNames ∧ excluded (relativeText ds ++ "/") = false ∧
        ignored (relativeText ds ++ "/") = false := by
    rw [Query.enters, Bool.and_eq_true, Bool.not_eq_true', Bool.not_eq_true', leavesOut_queryOf,
      ← Bool.not_eq_true, List.contains_iff_mem]
  simp only [hlists, henters, opens, decide_eq_true_eq]
  constructor
  · rintro ⟨⟨hsuffix, hdirectories, hfile⟩, hopen⟩
    exact ⟨⟨hsuffix, hfile⟩, fun ds hds => ⟨hopen ds hds, hdirectories ds hds⟩⟩
  · rintro ⟨⟨hsuffix, hfile⟩, hway⟩
    exact ⟨⟨hsuffix, fun ds hds => (hway ds hds).2, hfile⟩, fun ds hds => (hway ds hds).1⟩

theorem compiled_eq {s : Surroundings} {lines : List String} {leavesOut : String → Bool}
    (h : s.patterns lines = .ok leavesOut) (w : Workspace) :
    compiled lines s w = (.ok leavesOut, w) := by
  rw [compiled, Work.bind_of_ok (rfl : Work.surroundings s w = (.ok s, w)), h]
  rfl

theorem excludedBy_eq {s : Surroundings} (h : leftOutBy s.patterns (excludeLines? settings) = .ok excluded)
    (w : Workspace) : excludedBy settings s w = (.ok excluded, w) := by
  unfold excludeLines? at h
  unfold excludedBy
  split at h
  · next hempty =>
    cases h
    rw [if_pos hempty]
    rfl
  · next hempty =>
    rw [if_neg hempty]
    exact compiled_eq h w

theorem isName_ignoreFile : IsName ".gitignore" := by decide

theorem ignoredBy_eq {s : Surroundings} (hw : w.IsTree)
    (h : Accepted s.patterns settings root w base excluded ignored) :
    ignoredBy settings root s w = (.ok ignored, w) := by
  have hignored := h.ignored
  unfold ignoreLines? at hignored
  unfold ignoredBy
  split at hignored
  · next hrespect =>
    have hshort := h.short hrespect
    have hfile := Workspace.isFile_child h.located h.directory isName_ignoreFile hshort
    rw [if_pos hrespect, ignoreFile, Work.bind_of_ok (Work.inspect_of_ok hfile)]
    cases hbytes : w.file? (base ++ [".gitignore"]) with
    | none =>
      rw [hbytes] at hignored
      cases hignored
      rfl
    | some bytes =>
      rw [hbytes] at hignored
      have hread : w.read (root.child ".gitignore") = .ok bytes :=
        Workspace.read_of_stat
          (hw.stat_below h.located h.directory (Workspace.file?_eq_some.1 hbytes) hshort)
      rw [Option.isSome_some, if_pos rfl, Work.bind_of_ok (Work.inspect_of_ok hread)]
      exact compiled_eq hignored w
  · next hrespect =>
    cases hignored
    rw [if_neg hrespect]
    rfl

/-- What is found below a root. -/
theorem discover_eq {root : String} {s : Surroundings} (hw : w.IsTree)
    (h : Accepted s.patterns settings (Path.ofString root) w base excluded ignored) :
    discover settings root s w =
      (.ok (files w (queryOf settings excluded ignored) (Path.ofString root) base), w) := by
  have hdirectory : w.isDirectory (Path.ofString root) = .ok true := by
    rw [Workspace.isDirectory, Workspace.is, Workspace.stat_of_locate h.located h.directory]
  rw [discover, Work.bind_of_ok (Work.inspect_of_ok hdirectory), if_pos rfl,
    Work.bind_of_ok (excludedBy_eq h.excluded w), Work.bind_of_ok (ignoredBy_eq hw h),
    Work.bind_of_ok (Work.inspect_of_ok h.located)]
  rfl

/-- Whenever something is found, the root is a directory and what is found are the files of a walk. -/
theorem of_discover_eq_ok {root : String} {s : Surroundings} {paths : List Path}
    (h : discover settings root s w = (.ok paths, w)) :
    ∃ q base, w.locate (Path.ofString root) = .ok base ∧ w.node? base = some .directory ∧
      paths = files w q (Path.ofString root) base := by
  obtain ⟨isDirectory, hdirectory, h⟩ := (Work.looks_inspect _ _).ok_of_bind h
  split at h
  · next htrue =>
    subst htrue
    obtain ⟨base, hlocate, hnode⟩ :=
      Workspace.locate_of_isDirectory (Work.of_inspect_eq_ok hdirectory)
    have hlook := Work.inspect_of_ok (s := s) hlocate
    obtain ⟨excluded, -, h⟩ := (looks_excludedBy _).ok_of_bind h
    obtain ⟨ignored, -, h⟩ := (looks_ignoredBy _ _).ok_of_bind h
    rw [Work.bind_of_ok hlook] at h
    cases h
    exact ⟨_, base, hlocate, hnode, rfl⟩
  · cases h

theorem Accepted.reorders (h : Accepted patterns settings root w base excluded ignored) (hw : w.IsTree)
    (hv : w.Reorders v) : Accepted patterns settings root v base excluded ignored where
  located := (hv.locate hw root).trans h.located
  directory := (hv.node? hw base).trans h.directory
  excluded := h.excluded
  ignored := by
    have hlines : ignoreLines? settings v base = ignoreLines? settings w base := by
      rw [ignoreLines?, ignoreLines?, Workspace.file?_congr (hv.node? hw _)]
    rw [hlines]
    exact h.ignored
  short := h.short

/-- Directories may list their entries in any order. -/
theorem files_reorders (hw : w.IsTree) (hbase : w.node? base = some .directory) (hv : w.Reorders v)
    (q : Query) (root : Path) : files v q root base = files w q root base := by
  have hvbase : v.node? base = some .directory := (hv.node? hw base).trans hbase
  have hlt (u : Workspace) (hu : u.IsTree) :
      (files u q root base).Pairwise fun p r => p.components < r.components :=
    List.pairwise_map.1 (pairwise_components_files hu q root base)
  refine eq_of_pairwise (fun p r => List.lt_asymm) (hlt v (hv.isTree hw)) (hlt w hw) fun p => ?_
  rw [mem_files (hv.isTree hw) hvbase, mem_files hw hbase]
  simp only [hv.node? hw]

/-- **Discovery finds the files that are looked for, in the order of their paths**, and it does so
whatever the patterns leave out, and whatever the order in which directories list their entries. Only
what is below a directory with a path that is too long is missed. -/
theorem discover_eligible {root : String} {s : Surroundings} (hw : w.IsTree)
    (h : Accepted s.patterns settings (Path.ofString root) w base excluded ignored) :
    ∃ paths, discover settings root s w = (.ok paths, w) ∧
      (paths.map Path.components).Pairwise (· < ·) ∧
      (∀ p, p ∈ paths ↔ ∃ names, p = (Path.ofString root).below names ∧
        (∃ bytes, w.node? (base ++ names) = some (.file bytes)) ∧
        Eligible settings excluded ignored names ∧ Openable (Path.ofString root) names) ∧
      ∀ v, w.Reorders v → discover settings root s v = (.ok paths, v) := by
  refine ⟨_, discover_eq hw h, pairwise_components_files hw _ _ _, fun p => ?_, fun v hv => ?_⟩
  · rw [mem_files hw h.directory]
    simp only [eligible_iff]
  · rw [discover_eq (hv.isTree hw) (h.reorders hw hv), files_reorders hw h.directory hv]

/-- A file with a suffix in capitals is found, and one in a directory that the ignore file names is not. -/
theorem discover_eligible_ignored :
    let w : Workspace := { entries := [(["src"], .directory),
      (["src", ".gitignore"], .file (Utf8.encode "old/\n".toList)), (["src", "old"], .directory),
      (["src", "old", "a.scar"], .file []), (["src", "B.SCAR"], .file [])] }
    let settings : DiscoverySettings := { extensions := ["scar"] }
    let ignored := Ignore.ignores [⟨false, [.above, .char 'o', .char 'l', .char 'd', .inside]⟩]
    w.IsTree ∧ Accepted Ignore.compile settings (Path.ofString "src") w ["src"] (fun _ => false) ignored ∧
      ∃ paths, discover settings "src" {} w = (.ok paths, w) ∧ ⟨"", ["src", "B.SCAR"]⟩ ∈ paths ∧
        ⟨"", ["src", "old", "a.scar"]⟩ ∉ paths := by
  intro w settings ignored
  have hw : w.IsTree := by decide +kernel
  have hroot : Path.ofString "src" = ⟨"", ["src"]⟩ := by decide +kernel
  have hlines : ignoreLines? settings w ["src"] = some ["old/"] := by decide +kernel
  have hrules : Ignore.rules ["old/"] =
      .ok [⟨false, [.above, .char 'o', .char 'l', .char 'd', .inside]⟩] := by decide +kernel
  have h : Accepted Ignore.compile settings (Path.ofString "src") w ["src"] (fun _ => false) ignored :=
    ⟨by decide +kernel, by decide +kernel, rfl, by rw [hlines, leftOutBy, Ignore.compile, hrules]; rfl,
      by decide +kernel⟩
  obtain ⟨paths, hpaths, -, hmem, -⟩ := discover_eligible (s := {}) hw h
  refine ⟨hw, h, paths, hpaths, ?_, fun hold => ?_⟩
  · refine (hmem _).2 ⟨["B.SCAR"], by rw [hroot]; rfl, ⟨[], by decide +kernel⟩, eligible_iff.2 ⟨?_, ?_⟩⟩
    · decide +kernel
    · intro ds hds
      obtain rfl | ⟨rest, -, hrest⟩ := above_cons.1 hds
      · exact ⟨by decide +kernel, fun hne => absurd rfl hne⟩
      · exact absurd hrest (not_above_nil rest)
  · obtain ⟨names, hnames, -, heligible, -⟩ := (hmem _).1 hold
    rw [hroot] at hnames
    obtain rfl : ["old", "a.scar"] = names := (List.cons.inj (congrArg Path.parts hnames)).2
    have hleft := (heligible.directories ["old"] (by decide) (by decide)).2.2
    exact absurd hleft (by decide +kernel)

end Files

/-! ### Paths that are too long -/

section Detour

/-- A way to the directory `a` with detours through it. -/
def detour : Nat → List String
  | 0 => ["a"]
  | n + 1 => "a" :: ".." :: detour n

/-- A way to the directory `a` as a text. -/
def detourText (n : Nat) : String := "/".intercalate (detour n)

theorem detour_ne_nil (n : Nat) : detour n ≠ [] := by
  cases n <;> exact List.cons_ne_nil _ _

theorem detourText_succ (n : Nat) : detourText (n + 1) = "a/../" ++ detourText n := by
  rw [detourText, detour, String.intercalate_cons_of_ne_nil (List.cons_ne_nil _ _),
    String.intercalate_cons_of_ne_nil (detour_ne_nil n), ← detourText, ← String.append_assoc,
    ← String.append_assoc]
  rfl

theorem byteLength_detourText (n : Nat) : Workspace.byteLength (detourText n) = 5 * n + 1 := by
  induction n with
  | zero => decide +kernel
  | succ n ih =>
    have hstep : Workspace.byteLength "a/../" = 5 := by decide +kernel
    rw [detourText_succ, Workspace.byteLength_append, ih, hstep]
    omega

theorem null_notMem_detourText (n : Nat) : Char.ofNat 0 ∉ (detourText n).toList := by
  induction n with
  | zero => decide +kernel
  | succ n ih =>
    have hstep : Char.ofNat 0 ∉ "a/../".toList := by decide +kernel
    rw [detourText_succ, String.toList_append, List.mem_append, not_or]
    exact ⟨hstep, ih⟩

theorem ofString_detourText (n : Nat) : Path.ofString (detourText n) = ⟨"", detour n⟩ := by
  refine Path.ofString_intercalate (detour_ne_nil n) ?_
  induction n with
  | zero => decide +kernel
  | succ n ih =>
    exact List.forall_mem_cons.2 ⟨by decide +kernel, List.forall_mem_cons.2 ⟨by decide +kernel, ih⟩⟩

theorem text_detour (n : Nat) : (⟨"", detour n⟩ : Path).text = detourText n := by
  rw [Path.text, if_neg (by simp [detour_ne_nil])]
  exact String.empty_append

/-- However many detours there are, they lead to the directory. -/
theorem follow_detour {w : Workspace} (ha : w.node? ["a"] = some .directory) (n : Nat) :
    w.follow [] (detour n) = .ok ["a"] := by
  have hroot : w.node? [] = some .directory := rfl
  have hfirst (rest : List String) : w.follow [] ("a" :: rest) = w.follow ["a"] rest := by
    rw [Workspace.follow, hroot]
    dsimp only
    rw [if_neg (by decide +kernel), if_neg (by decide +kernel), List.nil_append]
  have hup (rest : List String) : w.follow ["a"] (".." :: rest) = w.follow [] rest := by
    rw [Workspace.follow, ha]
    dsimp only
    rw [if_pos (by decide +kernel), List.dropLast_singleton]
  induction n with
  | zero => exact hfirst []
  | succ n ih => rw [detour, hfirst, hup, ih]

theorem locate_detour {w : Workspace} (hhere : w.here = []) (ha : w.node? ["a"] = some .directory)
    {n : Nat} (hn : 5 * n + 1 ≤ Workspace.maxPathBytes) :
    w.locate (Path.ofString (detourText n)) = .ok ["a"] := by
  rw [ofString_detourText, Workspace.locate, text_detour, byteLength_detourText,
    if_neg (by simpa using null_notMem_detourText n), if_neg (Nat.not_lt.2 hn), hhere]
  exact follow_detour ha n

theorem opens_detour {n : Nat} (hn : 5 * n + 1 ≤ Workspace.maxPathBytes) :
    opens (Path.ofString (detourText n)) [] = true := by
  rw [opens, decide_eq_true_eq, openedAs, if_neg (by simp), Path.below, List.append_nil,
    ofString_detourText, text_detour, byteLength_detourText]
  exact hn

/-- How long a path is that goes on below the directory. -/
theorem byteLength_below_detour (n : Nat) {names : List String} (hne : names ≠ []) :
    Workspace.byteLength ((Path.ofString (detourText n)).below names).text =
      5 * n + 2 + Workspace.byteLength (relativeText names) := by
  have hslash : Workspace.byteLength "/" = 1 := by decide +kernel
  rw [ofString_detourText, Path.text_below _ hne, Path.leading, if_neg (detour_ne_nil n), text_detour,
    Workspace.byteLength_append, Workspace.byteLength_append, byteLength_detourText, hslash]
  rfl

/-- A directory that is reached with detours, and in which there is no ignore file. -/
theorem accepted_detour {w : Workspace} (hhere : w.here = []) (ha : w.node? ["a"] = some .directory)
    (hnone : w.file? ["a", ".gitignore"] = none) {n : Nat} (hn : 5 * n + 12 ≤ Workspace.maxPathBytes) :
    Accepted patterns {} (Path.ofString (detourText n)) w ["a"] (fun _ => false) fun _ => false where
  located := locate_detour hhere ha (by omega)
  directory := ha
  excluded := rfl
  ignored := by
    have hlines : ignoreLines? {} w ["a"] = none := by
      rw [ignoreLines?, if_pos rfl, List.singleton_append, hnone, Option.map_none]
    rw [hlines]
    rfl
  short _ := by
    have hname : Workspace.byteLength (relativeText [".gitignore"]) = 10 := by decide +kernel
    refine Nat.le_trans (Nat.le_of_eq (byteLength_below_detour n (List.cons_ne_nil _ _))) ?_
    rw [hname]
    exact hn

/-- Below a directory that is reached with 816 detours there is a file that is looked for and not found:
the path of its own directory has 4100 bytes. -/
theorem discover_misses_far :
    let w : Workspace := { entries := [(["a"], .directory), (["a", "sub_directory_name"], .directory),
      (["a", "sub_directory_name", "x.scar"], .file [])] }
    let names := ["sub_directory_name", "x.scar"]
    let nothing : String → Bool := fun _ => false
    w.IsTree ∧ Accepted Ignore.compile {} (Path.ofString (detourText 816)) w ["a"] nothing nothing ∧
      w.node? (["a"] ++ names) = some (.file []) ∧ Eligible {} nothing nothing names ∧
      ∃ paths, discover {} (detourText 816) {} w = (.ok paths, w) ∧
        (Path.ofString (detourText 816)).below names ∉ paths := by
  intro w names nothing
  have hw : w.IsTree := by decide +kernel
  have h : Accepted Ignore.compile {} (Path.ofString (detourText 816)) w ["a"] nothing nothing :=
    accepted_detour rfl (by decide +kernel) (by decide +kernel) (by decide)
  refine ⟨hw, h, by decide +kernel, ⟨by decide +kernel, fun ds hds hne => ?_, by decide +kernel⟩,
    _, discover_eq (s := {}) hw h, fun hmem => ?_⟩
  · obtain rfl | ⟨rest, rfl, hrest⟩ := above_cons.1 hds
    · exact absurd rfl hne
    · obtain rfl | ⟨rest, -, hnone⟩ := above_cons.1 hrest
      · decide +kernel
      · exact absurd hnone (not_above_nil rest)
  · obtain ⟨others, heq, -, -, hway⟩ := (mem_files hw h.directory).1 hmem
    obtain rfl : names = others := List.append_cancel_left (congrArg Path.parts heq)
    have hopens := (hway ["sub_directory_name"] (by decide)).1
    have hlong : Workspace.byteLength (relativeText ["sub_directory_name"]) = 18 := by decide +kernel
    rw [opens, decide_eq_true_eq, openedAs, if_neg (by simp [ofString_detourText, detour_ne_nil]),
      byteLength_below_detour 816 (List.cons_ne_nil _ _), hlong] at hopens
    exact absurd hopens (by decide)

end Detour

end Discovery

end ScriptDoc
