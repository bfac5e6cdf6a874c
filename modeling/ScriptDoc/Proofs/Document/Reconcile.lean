import ScriptDoc.Proofs.Document.Names

/-!
# Reconciliation

Two lists of records, `base` and `incoming`, are reconciled record by record.  For a lawful rule:

* `names_reconcile`: the names afterwards are those of both lists, each at its first occurrence;
* `reconcile_eq`: if names are distinct, the base is updated in place and the records that are new
  are appended;
* `findNamed?_reconcile`: the record of a name is the merge of the two records of that name;
* `findNamed?_reconcile_foldl`: if names are repeated, the incoming records of a name are merged one
  after the other.

The rules for functions, enums and globals are lawful.
-/

namespace ScriptDoc

section Named

variable {α : Type} [Named α]

/-- A merge keeps the name of the base, and leaves a record alone that counts as the same. -/
structure MergeRule.Lawful (rule : MergeRule α) : Prop where
  name_merge : ∀ x r, Named.name (rule.merge x r) = Named.name x
  merge_of_same : ∀ x r, rule.same x r = true → rule.merge x r = x

/-- What a record of the base becomes when the records `incoming` are brought in. -/
def MergeRule.updated (rule : MergeRule α) (incoming : List α) (x : α) : α :=
  (findNamed? (Named.name x) incoming).elim x (rule.merge x)

variable {rule : MergeRule α}

/-! ### One record -/

theorem reconcileStep_of_notMem {known : List α} {r : α} (h : Named.name r ∉ names known) :
    (reconcileStep rule known r).1 = known ++ [r] := by
  rw [reconcileStep, findNamed?_eq_none.2 h]

theorem reconcileStep_of_find (hl : rule.Lawful) {known : List α} {r x : α}
    (hd : (names known).Nodup) (h : findNamed? (Named.name r) known = some x) :
    (reconcileStep rule known r).1 = putNamed (rule.merge x r) known := by
  rw [reconcileStep, h]
  dsimp only
  split
  · next hs =>
    -- putting a record back into its own place changes nothing
    have hx : Named.name x ∈ names known := name_mem_names (mem_of_findNamed? h)
    rw [hl.merge_of_same x r hs, putNamed_eq_map hd hx]
    conv_lhs => rw [← List.map_id known]
    refine List.map_congr_left fun y hy => ?_
    split
    · next hxy =>
      have hy' := findNamed?_of_mem hd hy
      rw [hxy, name_of_findNamed? h, h] at hy'
      exact (Option.some.inj hy').symm
    · rfl
  · rfl

theorem names_reconcileStep (hl : rule.Lawful) (known : List α) (r : α) :
    names (reconcileStep rule known r).1 =
      if Named.name r ∈ names known then names known else names known ++ [Named.name r] := by
  split
  · next h =>
    obtain ⟨x, hx⟩ := Option.isSome_iff_exists.1 (isSome_findNamed?.2 h)
    have hname : Named.name (rule.merge x r) ∈ names known := by
      rw [hl.name_merge]
      exact name_mem_names (mem_of_findNamed? hx)
    rw [reconcileStep, hx]
    dsimp only
    split
    · rfl
    · exact names_putNamed_of_mem hname
  · next h => rw [reconcileStep_of_notMem h, names_append]; rfl

theorem findNamed?_reconcileStep (hl : rule.Lawful) (known : List α) (r : α) (x : String) :
    findNamed? x (reconcileStep rule known r).1 =
      if Named.name r = x then Option.merge rule.merge (findNamed? x known) (some r)
      else findNamed? x known := by
  by_cases hx : Named.name r = x
  · subst hx
    rw [if_pos rfl, reconcileStep]
    cases hfind : findNamed? (Named.name r) known with
    | none =>
      rw [findNamed?_append, hfind, findNamed?_cons, if_pos rfl]
      rfl
    | some y =>
      dsimp only
      split
      · next hsame => rw [hfind, Option.merge_some_some, hl.merge_of_same y r hsame]
      · have hname : Named.name (rule.merge y r) = Named.name r := by
          rw [hl.name_merge, name_of_findNamed? hfind]
        rw [findNamed?_putNamed, if_pos hname, Option.merge_some_some]
  · rw [if_neg hx, reconcileStep]
    cases hfind : findNamed? (Named.name r) known with
    | none =>
      have hnone : findNamed? x [r] = none := by rw [findNamed?_cons, if_neg hx]; rfl
      rw [findNamed?_append, hnone, Option.or_none]
    | some y =>
      dsimp only
      split
      · rfl
      · have hname : Named.name (rule.merge y r) ≠ x := by
          rwa [hl.name_merge, name_of_findNamed? hfind]
        rw [findNamed?_putNamed, if_neg hname]

/-! ### Whole lists -/

theorem fst_reconcileFrom (rule : MergeRule α) (known rs : List α) :
    (reconcileFrom rule known rs).1 =
      rs.foldl (fun known r => (reconcileStep rule known r).1) known := by
  induction rs generalizing known with
  | nil => rfl
  | cons r rs ih => rw [reconcileFrom, List.foldl_cons, ← ih]

/-- Reconciliation keeps the first occurrence of each name of both lists. -/
theorem names_reconcile (hl : rule.Lawful) (base incoming : List α) :
    names (reconcile rule base incoming).1 = (names base ++ names incoming).eraseDups := by
  rw [reconcile, fst_reconcileFrom,
    names_foldl (names_reconcileStep hl) _ _ (names_lastNamed base ▸ nodup_eraseDups _),
    names_lastNamed, eraseDups_eraseDups_append]

/-- The record of a name follows from the incoming records of that name, however many there are. -/
theorem findNamed?_reconcile_foldl (hl : rule.Lawful) (base incoming : List α) (x : String) :
    findNamed? x (reconcile rule base incoming).1 =
      (incoming.filter (Named.name · = x)).foldl (fun o r => Option.merge rule.merge o (some r))
        (findNamed? x (lastNamed base)) := by
  rw [reconcile, fst_reconcileFrom]
  exact findNamed?_foldl _ (findNamed?_reconcileStep hl) _ _ x

theorem nodup_names_reconcile (hl : rule.Lawful) (base incoming : List α) :
    (names (reconcile rule base incoming).1).Nodup :=
  names_reconcile hl base incoming ▸ nodup_eraseDups _

theorem MergeRule.Lawful.name_updated (hl : rule.Lawful) (incoming : List α) (x : α) :
    Named.name (rule.updated incoming x) = Named.name x := by
  unfold MergeRule.updated
  cases findNamed? (Named.name x) incoming with
  | none => rfl
  | some r => exact hl.name_merge x r

theorem MergeRule.updated_of_notMem {incoming : List α} {x : α}
    (h : Named.name x ∉ names incoming) : rule.updated incoming x = x := by
  rw [MergeRule.updated, findNamed?_eq_none.2 h, Option.elim_none]

/-- One step, seen from the records that come later. -/
theorem map_updated_reconcileStep (hl : rule.Lawful) {known rest : List α} {r : α}
    (hk : (names known).Nodup) (hr : Named.name r ∉ names rest) :
    (reconcileStep rule known r).1.map (rule.updated rest) =
      known.map (rule.updated (r :: rest)) ++
        [r].filter (fun s => Named.name s ∉ names known) := by
  have hother (y : α) (hy : Named.name r ≠ Named.name y) :
      rule.updated rest y = rule.updated (r :: rest) y := by
    rw [MergeRule.updated, MergeRule.updated, findNamed?_cons, if_neg hy]
  by_cases h : Named.name r ∈ names known
  · obtain ⟨x, hx⟩ := Option.isSome_iff_exists.1 (isSome_findNamed?.2 h)
    have hxr := name_of_findNamed? hx
    have hname : Named.name (rule.merge x r) = Named.name r := by rw [hl.name_merge, hxr]
    rw [reconcileStep_of_find hl hk hx, putNamed_eq_map hk (hname ▸ h), List.map_map]
    have hnone : [r].filter (fun s => Named.name s ∉ names known) = [] := by simp [h]
    rw [hnone, List.append_nil]
    refine List.map_congr_left fun y hy => ?_
    rw [Function.comp_apply, hname]
    split
    · next hyr =>
      have hyx : y = x := by
        have hy' := findNamed?_of_mem hk hy
        rw [hyr, hx] at hy'
        exact (Option.some.inj hy').symm
      subst hyx
      rw [MergeRule.updated_of_notMem (hname ▸ hr), MergeRule.updated, findNamed?_cons,
        if_pos hyr.symm, Option.elim_some]
    · next hyr => exact hother y (Ne.symm hyr)
  · rw [reconcileStep_of_notMem h, List.map_append]
    congr 1
    · refine List.map_congr_left fun y hy => hother y fun he => h ?_
      rw [he]
      exact name_mem_names hy
    · simp [h, MergeRule.updated_of_notMem hr]

/-- If names are distinct, the base is updated in place and new records are appended. -/
theorem reconcile_eq (hl : rule.Lawful) {base incoming : List α} (hb : (names base).Nodup)
    (hi : (names incoming).Nodup) :
    (reconcile rule base incoming).1 =
      base.map (rule.updated incoming) ++
        incoming.filter (fun r => Named.name r ∉ names base) := by
  rw [reconcile, lastNamed_eq_self hb, fst_reconcileFrom]
  induction incoming generalizing base with
  | nil =>
    have : base.map (rule.updated []) = base :=
      (List.map_congr_left fun x _ => rfl).trans (List.map_id base)
    rw [List.foldl_nil, this, List.filter_nil, List.append_nil]
  | cons r rest ih =>
    obtain ⟨hr, hrest⟩ := List.nodup_cons.1 hi
    have hstep := names_reconcileStep hl base r
    have hd : (names (reconcileStep rule base r).1).Nodup := by
      by_cases h : Named.name r ∈ names base
      · rwa [hstep, if_pos h]
      · rw [reconcileStep_of_notMem h]
        exact nodup_names_append_singleton hb h
    have hfilter : rest.filter (fun s => Named.name s ∉ names (reconcileStep rule base r).1) =
        rest.filter (fun s => Named.name s ∉ names base) := by
      refine List.filter_congr fun s hs => ?_
      have hsr : Named.name s ≠ Named.name r := fun he => hr (he ▸ name_mem_names hs)
      rw [hstep]
      split <;> simp [hsr]
    rw [List.foldl_cons, ih hd hrest, map_updated_reconcileStep hl hb hr, hfilter,
      List.append_assoc, ← List.filter_append, List.singleton_append]

/-- The record of a name is the merge of the two records of that name. -/
theorem findNamed?_reconcile (hl : rule.Lawful) {base incoming : List α} (hb : (names base).Nodup)
    (hi : (names incoming).Nodup) (x : String) :
    findNamed? x (reconcile rule base incoming).1 =
      Option.merge rule.merge (findNamed? x base) (findNamed? x incoming) := by
  rw [reconcile_eq hl hb hi, findNamed?_append]
  have hmap : findNamed? x (base.map (rule.updated incoming)) =
      (findNamed? x base).map (rule.updated incoming) := by
    rw [findNamed?, List.find?_map, findNamed?]
    congr 2
    funext y
    rw [Function.comp_apply, hl.name_updated]
  have hfilter : findNamed? x (incoming.filter fun r => Named.name r ∉ names base) =
      if x ∈ names base then none else findNamed? x incoming := by
    rw [findNamed?, List.find?_filter]
    split
    · next h =>
      rw [List.find?_eq_none]
      intro y _ hy
      obtain ⟨hnew, hyx⟩ : Named.name y ∉ names base ∧ Named.name y = x := by simpa using hy
      exact hnew (hyx ▸ h)
    · next h =>
      rw [findNamed?]
      congr 1
      funext y
      by_cases hy : Named.name y = x <;> simp [hy, h]
  rw [hmap, hfilter]
  cases hx : findNamed? x base with
  | none => rw [if_neg (findNamed?_eq_none.1 hx), Option.merge_none_left]; rfl
  | some y =>
    rw [Option.map_some, Option.some_or, MergeRule.updated, name_of_findNamed? hx]
    cases findNamed? x incoming <;> rfl

end Named

/-! ### The three rules -/

namespace Patch

variable {β : Type}

@[simp] theorem value_self (a : Option β) : value a a = a := by cases a <;> rfl

@[simp] theorem list_self (l : List β) : list l l = l := by cases l <;> rfl

theorem value_assoc (a b c : Option β) : value (value a b) c = value a (value b c) := by
  cases c <;> simp

theorem list_assoc (l m n : List β) : list (list l m) n = list l (list m n) := by
  cases n <;> simp

end Patch

/-- Equal records need no case of their own. -/
theorem FunctionRecord.merge_eq (a b : FunctionRecord) :
    a.merge b =
      { name := a.name
        shortDescription := Patch.value a.shortDescription b.shortDescription
        extendedDescription := Patch.list a.extendedDescription b.extendedDescription
        usage := Patch.value a.usage b.usage
        returnType := Patch.value a.returnType b.returnType
        returnDescription := Patch.value a.returnDescription b.returnDescription
        parameters := Patch.list a.parameters b.parameters
        origin := Patch.value a.origin b.origin
        groups := a.groups } := by
  unfold FunctionRecord.merge
  split
  · next h => subst h; simp only [Patch.value_self, Patch.list_self]
  · rfl

theorem GlobalRecord.merge_eq (a b : GlobalRecord) :
    a.merge b =
      { name := a.name
        value := Patch.value a.value b.value
        description := Patch.value a.description b.description
        typeName := Patch.value a.typeName b.typeName } := by
  unfold GlobalRecord.merge
  split
  · next h => subst h; simp only [Patch.value_self]
  · rfl

theorem EnumRecord.merge_name (a b : EnumRecord) : (a.merge b).name = a.name := by
  unfold EnumRecord.merge
  split <;> rfl

/-- Up to their order, the members are those of the second enum unless it has none. -/
theorem EnumRecord.merge_members_perm (a b : EnumRecord) :
    (a.merge b).members.Perm (Patch.list a.members b.members) := by
  unfold EnumRecord.merge
  split
  · next h =>
    have hab : a.members.Perm b.members := by
      rw [EnumRecord.same, Bool.and_eq_true] at h
      exact List.isPerm_iff.1 h.2
    cases hb : b.members with
    | nil => simp
    | cons m ms => rw [Patch.list_cons, ← hb]; exact hab
  · exact List.Perm.refl _

theorem FunctionRecord.mergeRule_lawful : FunctionRecord.mergeRule.Lawful where
  name_merge a b := by
    show (a.merge b).name = a.name
    rw [FunctionRecord.merge_eq]
  merge_of_same a b h := by
    have hab : a = b := by simpa [FunctionRecord.mergeRule] using h
    exact if_pos hab

theorem EnumRecord.mergeRule_lawful : EnumRecord.mergeRule.Lawful where
  name_merge a b := EnumRecord.merge_name a b
  merge_of_same _ _ h := if_pos h

theorem GlobalRecord.mergeRule_lawful : GlobalRecord.mergeRule.Lawful where
  name_merge a b := by
    show (a.merge b).name = a.name
    rw [GlobalRecord.merge_eq]
  merge_of_same a b h := by
    have hab : a = b := by simpa [GlobalRecord.mergeRule] using h
    exact if_pos hab

end ScriptDoc
