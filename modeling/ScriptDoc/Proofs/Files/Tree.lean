import Mathlib.Data.List.Induction
import ScriptDoc.Proofs.Files.Frame
import ScriptDoc.Proofs.Json.RoundTrip

/-!
# Trees of files

A workspace is a tree if everything in it stands below a directory, at a location of its own and under names
that files can have.

* `Workspace.IsTree`, and `Workspace.IsTree.directory_above`: whatever stands below a location, that location is
  a directory;
* `Workspace.IsTree.mem_children`, `Workspace.IsTree.nodup_children`: what a directory lists;
* `Workspace.IsTree.stat_below`: what stands below a directory is found by its path, unless the path is too
  long;
* `Workspace.Reorders`, the same tree listed in another order, and `Workspace.Reorders.locate`: paths lead to the
  same;
* `Path.text_below_injective`: different files below a directory have paths of different texts.
-/

namespace ScriptDoc

/-- A name that a file or a directory can have. -/
structure IsName (name : String) : Prop where
  ne_empty : name ≠ ""
  ne_here : name ≠ "."
  ne_up : name ≠ ".."
  slash_notMem : '/' ∉ name.toList
  null_notMem : Char.ofNat 0 ∉ name.toList
  short : Workspace.byteLength name ≤ Workspace.maxNameBytes

instance (name : String) : Decidable (IsName name) :=
  decidable_of_iff (name ≠ "" ∧ name ≠ "." ∧ name ≠ ".." ∧ '/' ∉ name.toList ∧
      Char.ofNat 0 ∉ name.toList ∧ Workspace.byteLength name ≤ Workspace.maxNameBytes)
    ⟨fun ⟨h₁, h₂, h₃, h₄, h₅, h₆⟩ => ⟨h₁, h₂, h₃, h₄, h₅, h₆⟩,
      fun ⟨h₁, h₂, h₃, h₄, h₅, h₆⟩ => ⟨h₁, h₂, h₃, h₄, h₅, h₆⟩⟩

namespace Workspace

/-- Everything stands below a directory, at a location of its own, under names that files can have. -/
structure IsTree (w : Workspace) : Prop where
  distinct : (w.entries.map Prod.fst).Nodup
  names : ∀ e ∈ w.entries, ∀ name ∈ e.1, IsName name
  below : ∀ e ∈ w.entries, e.1 ≠ [] ∧ w.node? e.1.dropLast = some .directory

instance (w : Workspace) : Decidable w.IsTree :=
  decidable_of_iff ((w.entries.map Prod.fst).Nodup ∧ (∀ e ∈ w.entries, ∀ name ∈ e.1, IsName name) ∧
      ∀ e ∈ w.entries, e.1 ≠ [] ∧ w.node? e.1.dropLast = some .directory)
    ⟨fun ⟨h₁, h₂, h₃⟩ => ⟨h₁, h₂, h₃⟩, fun ⟨h₁, h₂, h₃⟩ => ⟨h₁, h₂, h₃⟩⟩

variable {w v : Workspace} {l base : Location} {n : Node}

/-! ### What stands where -/

theorem byteLength_append (s t : String) : byteLength (s ++ t) = byteLength s + byteLength t := by
  rw [byteLength, byteLength, byteLength, String.toList_append, Text.Utf8.encode, List.flatMap_append,
    List.length_append]
  rfl

theorem lookup_eq_some_iff_mem {entries : List (Location × Node)} (hd : (entries.map Prod.fst).Nodup) :
    entries.lookup l = some n ↔ (l, n) ∈ entries := by
  refine ⟨fun h => ?_, fun h => Value.lookup_of_mem hd h⟩
  obtain ⟨before, after, rfl, -⟩ := List.lookup_eq_some_iff.1 h
  simp

theorem IsTree.node?_eq_some (hw : w.IsTree) (hl : l ≠ []) :
    w.node? l = some n ↔ (l, n) ∈ w.entries := by
  rw [node?, if_neg (by simpa using hl), lookup_eq_some_iff_mem hw.distinct]

theorem mem_children_iff {name : String} :
    (name, n) ∈ w.children l ↔ (l ++ [name], n) ∈ w.entries := by
  rw [children, List.mem_filterMap]
  constructor
  · rintro ⟨⟨k, m⟩, hmem, hlast⟩
    dsimp only at hlast
    split at hlast
    · next last hk =>
      obtain ⟨front, rfl⟩ := List.getLast?_eq_some_iff.1 hk
      rw [List.dropLast_concat] at hlast
      split at hlast
      · next hfront =>
        cases hlast
        rwa [← beq_iff_eq.1 hfront]
      · cases hlast
    · cases hlast
  · intro h
    exact ⟨_, h, by simp⟩

theorem IsTree.mem_children (hw : w.IsTree) {name : String} :
    (name, n) ∈ w.children l ↔ w.node? (l ++ [name]) = some n := by
  rw [mem_children_iff, hw.node?_eq_some (by simp)]

/-- A directory lists no name twice. -/
theorem IsTree.nodup_children (hw : w.IsTree) (l : Location) : ((w.children l).map Prod.fst).Nodup := by
  have hsublist (entries : List (Location × Node)) :
      ((Workspace.children { entries } l).map fun c => l ++ [c.1]).Sublist (entries.map Prod.fst) := by
    induction entries with
    | nil => exact .slnil
    | cons e entries ih =>
      obtain ⟨k, m⟩ := e
      simp only [children, List.filterMap_cons] at ih ⊢
      split
      · exact ih.cons _
      · next c hc =>
        split at hc
        · next last hk =>
          obtain ⟨front, rfl⟩ := List.getLast?_eq_some_iff.1 hk
          rw [List.dropLast_concat] at hc
          split at hc
          · next hfront =>
            cases hc
            rw [beq_iff_eq] at hfront
            subst hfront
            exact ih.cons_cons _
          · cases hc
        · cases hc
  have hlocations := (hsublist w.entries).nodup hw.distinct
  have hmap : (w.children l).map (fun c => l ++ [c.1]) =
      ((w.children l).map Prod.fst).map fun name => l ++ [name] := by rw [List.map_map]; rfl
  exact (hmap ▸ hlocations).of_map _

/-- Above everything there are directories. -/
theorem IsTree.directory_above (hw : w.IsTree) {more : List String} (hmore : more ≠ [])
    (h : w.node? (l ++ more) = some n) : w.node? l = some .directory := by
  induction more using List.reverseRecOn generalizing n with
  | nil => exact absurd rfl hmore
  | append_singleton more name ih =>
    rw [← List.append_assoc, hw.node?_eq_some (by simp)] at h
    have habove := (hw.below _ h).2
    rw [List.dropLast_concat] at habove
    by_cases hnil : more = []
    · rwa [hnil, List.append_nil] at habove
    · exact ih hnil habove

theorem IsTree.isName (hw : w.IsTree) (h : w.node? l = some n) {name : String} (hname : name ∈ l) :
    IsName name :=
  hw.names _ ((hw.node?_eq_some (List.ne_nil_of_mem hname)).1 h) name hname

/-! ### Paths below a directory -/

/-- Names lead to what stands below a directory. -/
theorem IsTree.follow_below (hw : w.IsTree) (hbase : w.node? base = some .directory)
    {names : List String} (h : w.node? (base ++ names) = some n) :
    w.follow base names = .ok (base ++ names) := by
  induction names generalizing base with
  | nil => rw [follow, List.append_nil]
  | cons name names ih =>
    have hname : IsName name := hw.isName h (by simp)
    have hne : ¬ (name == "..") = true := by simpa using hname.ne_up
    rw [follow, hbase]
    dsimp only
    rw [if_neg hne, if_neg (Nat.not_lt.2 hname.short)]
    rw [List.append_cons base name names] at h ⊢
    by_cases hnil : names = []
    · rw [hnil, follow, List.append_nil]
    · exact ih (hw.directory_above hnil h) h

end Workspace

namespace Path

/-- What stands before the names in a path below a directory. -/
def leading (p : Path) : String := if p.parts = [] then p.root else p.text ++ "/"

theorem splitOn_intercalate_slash {parts : List String} (hne : parts ≠ [])
    (h : ∀ part ∈ parts, '/' ∉ part.toList) :
    ("/".intercalate parts).toList.splitOn '/' = parts.map String.toList := by
  rw [String.toList_intercalate]
  refine List.splitOn_intercalate '/' (fun cs hcs => ?_) (by simpa using hne)
  obtain ⟨part, hpart, rfl⟩ := List.mem_map.1 hcs
  exact h part hpart

/-- Parts with slashes between them are read as those parts. -/
theorem ofString_intercalate {parts : List String} (hne : parts ≠ [])
    (h : ∀ part ∈ parts, part ≠ "" ∧ part ≠ "." ∧ '/' ∉ part.toList) :
    ofString ("/".intercalate parts) = ⟨"", parts⟩ := by
  have hroot : rootOf ("/".intercalate parts).toList = "" := by
    obtain ⟨part, rest, rfl⟩ := List.exists_cons_of_ne_nil hne
    obtain ⟨hempty, -, hslash⟩ := h part List.mem_cons_self
    obtain ⟨c, cs, hcs⟩ := List.exists_cons_of_ne_nil (mt String.toList_eq_nil_iff.1 hempty)
    have hc : c ≠ '/' := fun hc => hslash (by simp [hcs, hc])
    have hhead : ∃ tail, ("/".intercalate (part :: rest)).toList = c :: tail := by
      cases rest with
      | nil => exact ⟨cs, by simpa using hcs⟩
      | cons q rest =>
        refine ⟨cs ++ ("/".toList ++ ("/".intercalate (q :: rest)).toList), ?_⟩
        rw [String.intercalate_cons_cons]
        simp [hcs]
    obtain ⟨tail, htail⟩ := hhead
    rw [htail, rootOf]
    all_goals simp [hc]
  have hfilter : parts.filter (fun part => part != "" && part != ".") = parts := by
    refine List.filter_eq_self.2 fun part hpart => ?_
    simp [(h part hpart).1, (h part hpart).2.1]
  have hparts : (parts.map String.toList).map String.ofList = parts := by
    rw [List.map_map]
    exact (List.map_congr_left fun part _ => String.ofList_toList).trans (List.map_id _)
  rw [ofString, hroot, splitOn_intercalate_slash hne fun part hpart => (h part hpart).2.2, hparts, hfilter]

theorem text_below (p : Path) {names : List String} (h : names ≠ []) :
    (p.below names).text = p.leading ++ "/".intercalate names := by
  have htext : (p.below names).text = p.root ++ "/".intercalate (p.parts ++ names) := by
    rw [text, below, if_neg]
    simp [h]
  rw [htext, leading]
  split
  · next hparts => rw [hparts, List.nil_append]
  · next hparts =>
    rw [String.intercalate_append_of_ne_nil hparts h, text, if_neg (by simp [hparts])]
    simp only [String.append_assoc]

theorem text_below_injective (p : Path) {names others : List String} (hnames : names ≠ [])
    (hothers : others ≠ []) (hn : ∀ name ∈ names, IsName name) (ho : ∀ name ∈ others, IsName name)
    (h : (p.below names).text = (p.below others).text) : names = others := by
  rw [text_below p hnames, text_below p hothers, String.append_right_inj] at h
  have hparts := splitOn_intercalate_slash hnames fun name hname => (hn name hname).slash_notMem
  rw [h, splitOn_intercalate_slash hothers fun name hname => (ho name hname).slash_notMem] at hparts
  exact (List.map_injective_iff.2 (fun _ _ => String.toList_inj.1) hparts).symm

/-- A character that is in no name and not in the path of a directory is in no path below it. -/
theorem notMem_text_below {p : Path} {names : List String} {c : Char} (hslash : c ≠ '/')
    (hp : c ∉ p.text.toList) (hnames : ∀ name ∈ names, c ∉ name.toList) :
    c ∉ (p.below names).text.toList := by
  by_cases h : names = []
  · rwa [h, below, List.append_nil]
  have hlead : c ∉ p.leading.toList := by
    unfold leading
    split
    · next hparts =>
      rw [text, hparts] at hp
      split at hp
      · next hroot =>
        have hempty : p.root = "" := by simpa using hroot
        simp [hempty]
      · simpa using hp
    · simpa [hslash] using hp
  have hrest : c ∉ ("/".intercalate names).toList := by
    rw [String.toList_intercalate]
    rw [← List.forall_mem_ne']
    refine Json.forall_mem_intercalate (by simpa using Ne.symm hslash) fun cs hcs => ?_
    obtain ⟨name, hname, rfl⟩ := List.mem_map.1 hcs
    exact List.forall_mem_ne'.2 (hnames name hname)
  rw [text_below p h, String.toList_append, List.mem_append, not_or]
  exact ⟨hlead, hrest⟩

end Path

namespace Workspace

variable {w v : Workspace} {p : Path} {base : Location} {n : Node}

/-- A path that goes on below a directory is followed from there, unless it is too long. -/
theorem locate_below (hp : w.locate p = .ok base) {names : List String}
    (hnames : ∀ name ∈ names, IsName name) :
    w.locate (p.below names) =
      if byteLength (p.below names).text > maxPathBytes then .error .nameTooLong
      else w.follow base names := by
  unfold locate at hp
  split at hp
  · cases hp
  · next hnull =>
    split at hp
    · cases hp
    · -- the null character is looked for first, even in a path that is too long
      have hnone : ¬ (p.below names).text.toList.contains (Char.ofNat 0) = true := by
        rw [List.contains_iff_mem]
        exact Path.notMem_text_below (by decide) (by simpa using hnull) fun name hname =>
          (hnames name hname).null_notMem
      have hfollow : w.follow (if (p.below names).isAbsolute then [] else w.here) (p.below names).parts =
          w.follow base names := by
        show w.follow (if p.isAbsolute then [] else w.here) (p.parts ++ names) = _
        rw [follow_append, hp]
        rfl
      rw [locate, if_neg hnone, hfollow]

/-- What stands below a directory is found by its path, unless the path is too long. -/
theorem IsTree.stat_below (hw : w.IsTree) (hp : w.locate p = .ok base)
    (hbase : w.node? base = some .directory) {names : List String}
    (hn : w.node? (base ++ names) = some n) (hshort : byteLength (p.below names).text ≤ maxPathBytes) :
    w.stat (p.below names) = .ok n := by
  have hlocate := locate_below hp fun name hname => hw.isName hn (List.mem_append_right base hname)
  rw [if_neg (Nat.not_lt.2 hshort), hw.follow_below hbase hn] at hlocate
  exact stat_of_locate hlocate hn

theorem stat_below_of_long (hp : w.locate p = .ok base) {names : List String}
    (hnames : ∀ name ∈ names, IsName name) (hlong : maxPathBytes < byteLength (p.below names).text) :
    w.stat (p.below names) = .error .nameTooLong := by
  rw [stat, locate_below hp hnames, if_pos hlong]
  rfl

/-- Whether there is a file of a name in a directory. -/
theorem isFile_child (hp : w.locate p = .ok base) (hbase : w.node? base = some .directory)
    {name : String} (hname : IsName name) (hshort : byteLength (p.child name).text ≤ maxPathBytes) :
    w.isFile (p.child name) = .ok (w.file? (base ++ [name])).isSome := by
  have hchild : p.child name = p.below [name] := rfl
  rw [hchild] at hshort ⊢
  have hne : ¬ (name == "..") = true := by simpa using hname.ne_up
  have hlocate : w.locate (p.below [name]) = .ok (base ++ [name]) := by
    rw [locate_below hp (by simpa using hname), if_neg (Nat.not_lt.2 hshort), follow, hbase]
    dsimp only
    rw [if_neg hne, if_neg (Nat.not_lt.2 hname.short), follow]
  cases hn : w.node? (base ++ [name]) with
  | none =>
    have hstat : w.stat (p.below [name]) = .error .notFound := by
      simp only [stat, hlocate, bind, Except.bind, hn]
    rw [isFile, is, hstat, file?, hn]
    rfl
  | some n =>
    rw [isFile, is, stat_of_locate hlocate hn, file?, hn]
    cases n <;> rfl

/-! ### Other orders -/

/-- The same files and directories, listed in another order. -/
structure Reorders (w v : Workspace) : Prop where
  here : v.here = w.here
  entries : v.entries.Perm w.entries

theorem Reorders.node? (h : w.Reorders v) (hw : w.IsTree) (l : Location) : v.node? l = w.node? l := by
  have hd : (v.entries.map Prod.fst).Nodup := (h.entries.map Prod.fst).nodup_iff.2 hw.distinct
  by_cases hl : l = []
  · rw [hl]
    rfl
  · have hempty : ¬ l.isEmpty = true := by simpa using hl
    rw [Workspace.node?, Workspace.node?, if_neg hempty, if_neg hempty]
    ext n
    rw [lookup_eq_some_iff_mem hd, lookup_eq_some_iff_mem hw.distinct, h.entries.mem_iff]

theorem Reorders.isTree (h : w.Reorders v) (hw : w.IsTree) : v.IsTree where
  distinct := (h.entries.map Prod.fst).nodup_iff.2 hw.distinct
  names e he := hw.names e (h.entries.mem_iff.1 he)
  below e he := by
    rw [h.node? hw]
    exact hw.below e (h.entries.mem_iff.1 he)

theorem follow_congr (h : ∀ l, v.node? l = w.node? l) (l : Location) (parts : List String) :
    v.follow l parts = w.follow l parts := by
  induction parts generalizing l with
  | nil => rfl
  | cons part parts ih =>
    rw [follow, follow, h]
    simp only [ih]

theorem Reorders.locate (h : w.Reorders v) (hw : w.IsTree) (p : Path) : v.locate p = w.locate p := by
  rw [Workspace.locate, Workspace.locate, h.here]
  simp only [follow_congr (h.node? hw)]

end Workspace

end ScriptDoc
