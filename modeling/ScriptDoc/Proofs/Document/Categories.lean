import Mathlib.Data.List.Nodup
import Mathlib.Data.List.Perm.Basic
import ScriptDoc.Document.Categorize
import ScriptDoc.Proofs.Document.Names

/-!
# The categories of a list of functions

`categorize` is a stable partition.

* `categoryNames_lt`: category names increase strictly, in the order of code points;
* `members_functions_categorize`: within a category the functions keep their order;
* `functions_categorize_perm`: no function is lost and none is added;
* `categorize_congr`: lists that agree on the members of every category have the same categories,
  so the order of functions of different categories does not matter.
-/

namespace ScriptDoc

/-! ### Names of categories -/

theorem mem_categoryNames {fs : List FunctionRecord} {key : String} :
    key ∈ categoryNames fs ↔ ∃ f ∈ fs, f.categoryKey = key := by
  rw [categoryNames, List.mem_mergeSort, List.mem_eraseDups, List.mem_map]

theorem categoryNames_nodup (fs : List FunctionRecord) : (categoryNames fs).Nodup :=
  (List.mergeSort_perm _ _).nodup_iff.2 (nodup_eraseDups _)

theorem categoryNames_lt (fs : List FunctionRecord) : (categoryNames fs).Pairwise (· < ·) := by
  have hle : (categoryNames fs).Pairwise fun a b => decide (a ≤ b) = true :=
    List.pairwise_mergeSort
      (fun a b c hab hbc => by
        simp only [decide_eq_true_eq] at hab hbc ⊢
        exact String.le_trans hab hbc)
      (fun a b => by simpa using String.le_total a b) _
  refine (hle.and (categoryNames_nodup fs)).imp ?_
  rintro a b ⟨hab, hne⟩
  rw [decide_eq_true_eq] at hab
  exact String.not_le.1 fun hba => hne (String.le_antisymm hab hba)

/-! ### Members -/

theorem mem_members {fs : List FunctionRecord} {key : String} {f : FunctionRecord} :
    f ∈ members fs key ↔ f ∈ fs ∧ f.categoryKey = key := by
  simp [members]

theorem members_append (fs gs : List FunctionRecord) (key : String) :
    members (fs ++ gs) key = members fs key ++ members gs key :=
  List.filter_append ..

theorem members_filter (p : FunctionRecord → Bool) (fs : List FunctionRecord) (key : String) :
    members (fs.filter p) key = (members fs key).filter p :=
  List.filter_comm ..

theorem members_eq_nil {fs : List FunctionRecord} {key : String} :
    members fs key = [] ↔ key ∉ categoryNames fs := by
  rw [mem_categoryNames]
  simp [members]

theorem members_members (fs : List FunctionRecord) (key other : String) :
    members (members fs key) other = if key = other then members fs key else [] := by
  unfold members
  rw [List.filter_filter]
  split
  · next h => subst h; simp
  · next h =>
    rw [List.filter_eq_nil_iff]
    intro f _ hf
    simp only [Bool.and_eq_true, beq_iff_eq] at hf
    exact h (hf.2.symm.trans hf.1)

/-- Of several groups with different keys, one has the members of a key. -/
theorem members_flatMap_members (fs : List FunctionRecord) {keys : List String}
    (hd : keys.Nodup) (key : String) :
    members (keys.flatMap (members fs)) key = if key ∈ keys then members fs key else [] := by
  induction keys with
  | nil => rfl
  | cons k ks ih =>
    obtain ⟨hk, hks⟩ := List.nodup_cons.1 hd
    rw [List.flatMap_cons, members_append, members_members, ih hks]
    by_cases h : k = key
    · subst h
      simp [hk]
    · simp [h, Ne.symm h]

/-! ### Categories -/

theorem functions_categorize (fs : List FunctionRecord) :
    (categorize fs).flatMap (·.functions) = (categoryNames fs).flatMap (members fs) := by
  rw [categorize, List.flatMap_map]

/-- Within a category the functions keep their order. -/
theorem members_functions_categorize (fs : List FunctionRecord) (key : String) :
    members ((categorize fs).flatMap (·.functions)) key = members fs key := by
  rw [functions_categorize, members_flatMap_members fs (categoryNames_nodup fs)]
  split
  · rfl
  · next h => exact (members_eq_nil.2 h).symm

theorem perm_of_members_eq {fs gs : List FunctionRecord}
    (h : ∀ key, members fs key = members gs key) : fs.Perm gs := by
  rw [List.perm_iff_count]
  intro f
  have hcount (hs : List FunctionRecord) : hs.count f = (members hs f.categoryKey).count f := by
    rw [members, List.count_filter (by simp)]
  rw [hcount fs, hcount gs, h]

theorem functions_categorize_perm (fs : List FunctionRecord) :
    ((categorize fs).flatMap (·.functions)).Perm fs :=
  perm_of_members_eq (members_functions_categorize fs)

/-- Of all strictly increasing lists, one has the names of the categories. -/
theorem categoryNames_eq {fs : List FunctionRecord} {keys : List String}
    (hlt : keys.Pairwise (· < ·)) (hmem : ∀ key, key ∈ categoryNames fs ↔ key ∈ keys) :
    categoryNames fs = keys := by
  have hd : keys.Nodup := hlt.imp fun hab => String.ne_of_lt hab
  have hperm : (categoryNames fs).Perm keys :=
    (List.perm_ext_iff_of_nodup (categoryNames_nodup fs) hd).2 hmem
  exact hperm.eq_of_pairwise (fun a b _ _ hab hba => absurd hab (String.lt_asymm hba))
    (categoryNames_lt fs) hlt

/-- The categories depend only on the members of each. -/
theorem categorize_congr {fs gs : List FunctionRecord}
    (h : ∀ key, members fs key = members gs key) : categorize fs = categorize gs := by
  have hnames : categoryNames fs = categoryNames gs := by
    refine categoryNames_eq (categoryNames_lt gs) fun key => ?_
    rw [← not_iff_not, ← members_eq_nil, ← members_eq_nil, h]
  rw [categorize, categorize, hnames]
  exact List.map_congr_left fun key _ => by rw [h]

end ScriptDoc
