import ScriptDoc.Proofs.Data.Buckets
import ScriptDoc.Proofs.Document.Categories

/-!
# Categories as a sorted partition

There are two ways to tell what the categories of functions are.  As a partition, they are the classes of the
functions under `FunctionRecord.categoryKey`, each in the order of the functions, and the names of the classes
increase.  As a procedure, functions are gathered in buckets in one pass, and then the buckets are sorted.

* `FunctionRecord.HasKey`, the rule that gives a function its category;
* `SortedPartition`, the partition, and `eq_categorize_iff`: there is just one, and `categorize` gives it;
* `categoryBuckets`, the buckets, and `categorize_eq_sorted`: sorting compares them by their names only;
* `categorize_partition`.
-/

namespace ScriptDoc

/-! ### The category of one function -/

/-- The name of the category of a function, by the first rule that applies: what stands before the first low
line of its name, what stands before the first colon, its first group, `Other`. -/
inductive FunctionRecord.HasKey (f : FunctionRecord) : String → Prop where
  | lowLine {key rest : String} (hname : f.name = key ++ "_" ++ rest) (hkey : '_' ∉ key.toList) :
    f.HasKey key
  | colon {key rest : String} (hlow : '_' ∉ f.name.toList) (hname : f.name = key ++ ":" ++ rest)
    (hkey : ':' ∉ key.toList) : f.HasKey key
  | group {key : String} {more : List String} (hlow : '_' ∉ f.name.toList)
    (hcolon : ':' ∉ f.name.toList) (hgroups : f.groups = key :: more) : f.HasKey key
  | other (hlow : '_' ∉ f.name.toList) (hcolon : ':' ∉ f.name.toList) (hgroups : f.groups = []) :
    f.HasKey "Other"

theorem before?_eq_none {c : Char} {s : String} : before? c s = none ↔ c ∉ s.toList := by
  simp [before?]

theorem before?_eq_some {c : Char} {s key : String} :
    before? c s = some key ↔ c ∉ key.toList ∧ ∃ rest, s = key ++ String.singleton c ++ rest := by
  have htake {as : List Char} (has : c ∉ as) (bs : List Char) :
      (as ++ c :: bs).takeWhile (· != c) = as := by
    rw [List.takeWhile_append_of_pos fun d hd => by simpa using fun hdc : d = c => has (hdc ▸ hd)]
    simp
  constructor
  · intro h
    unfold before? at h
    dsimp only at h
    split at h
    · next hc =>
      cases h
      obtain ⟨as, bs, hs, has⟩ := List.eq_append_cons_of_mem (List.contains_iff_mem.1 hc)
      rw [hs, htake has]
      refine ⟨by simpa using has, String.ofList bs, ?_⟩
      rw [← String.toList_inj, hs]
      simp
    · cases h
  · rintro ⟨hkey, rest, rfl⟩
    simp [before?, htake hkey]

theorem FunctionRecord.hasKey_categoryKey (f : FunctionRecord) : f.HasKey f.categoryKey := by
  unfold categoryKey
  cases hlow : before? '_' f.name with
  | some key =>
    obtain ⟨hkey, rest, hname⟩ := before?_eq_some.1 hlow
    exact .lowLine hname hkey
  | none =>
    rw [before?_eq_none] at hlow
    cases hcolon : before? ':' f.name with
    | some key =>
      obtain ⟨hkey, rest, hname⟩ := before?_eq_some.1 hcolon
      exact .colon hlow hname hkey
    | none =>
      rw [before?_eq_none] at hcolon
      cases hgroups : f.groups with
      | nil => exact .other hlow hcolon hgroups
      | cons key more => exact .group hlow hcolon hgroups

/-- The rule gives a function one category. -/
theorem FunctionRecord.categoryKey_eq_iff {f : FunctionRecord} {key : String} :
    f.categoryKey = key ↔ f.HasKey key := by
  refine ⟨fun h => h ▸ f.hasKey_categoryKey, fun h => ?_⟩
  unfold categoryKey
  cases h with
  | lowLine hname hkey =>
    have hlow : before? '_' f.name = some key := before?_eq_some.2 ⟨hkey, _, hname⟩
    rw [hlow]
  | colon hlow hname hkey =>
    have hcolon : before? ':' f.name = some key := before?_eq_some.2 ⟨hkey, _, hname⟩
    rw [before?_eq_none.2 hlow, hcolon]
  | group hlow hcolon hgroups =>
    rw [before?_eq_none.2 hlow, before?_eq_none.2 hcolon, hgroups]
    rfl
  | other hlow hcolon hgroups =>
    rw [before?_eq_none.2 hlow, before?_eq_none.2 hcolon, hgroups]
    rfl

/-! ### The partition -/

/-- Categories with strictly increasing names, one for each key of the functions, and each with the functions
of its key in their order. -/
structure SortedPartition (fs : List FunctionRecord) (categories : List Category) : Prop where
  increasing : (categories.map (·.name)).Pairwise (· < ·)
  keys : ∀ key, key ∈ categories.map (·.name) ↔ ∃ f ∈ fs, f.categoryKey = key
  functions : ∀ c ∈ categories, c.functions = fs.filter (·.categoryKey = c.name)

theorem names_categorize (fs : List FunctionRecord) :
    (categorize fs).map (·.name) = categoryNames fs := by
  rw [categorize, List.map_map]
  exact List.map_id _

theorem sortedPartition_categorize (fs : List FunctionRecord) : SortedPartition fs (categorize fs) where
  increasing := names_categorize fs ▸ categoryNames_lt fs
  keys key := by rw [names_categorize, mem_categoryNames]
  functions c hc := by
    obtain ⟨key, -, rfl⟩ := List.mem_map.1 hc
    rfl

/-- A partition is known from its names. -/
theorem SortedPartition.eq_map {fs : List FunctionRecord} {categories : List Category}
    (h : SortedPartition fs categories) :
    categories = (categories.map (·.name)).map fun key => ⟨key, fs.filter (·.categoryKey = key)⟩ := by
  rw [List.map_map]
  refine (List.map_id _).symm.trans (List.map_congr_left fun c hc => ?_)
  obtain ⟨name, functions⟩ := c
  exact congrArg (Category.mk name) (h.functions _ hc)

/-- Functions have one partition. -/
theorem eq_categorize_iff {fs : List FunctionRecord} {categories : List Category} :
    categories = categorize fs ↔ SortedPartition fs categories := by
  refine ⟨fun h => h ▸ sortedPartition_categorize fs, fun h => ?_⟩
  have hc := sortedPartition_categorize fs
  have hnames : categories.map (·.name) = (categorize fs).map (·.name) :=
    eq_of_pairwise (fun a b hab hba => String.lt_asymm hab hba) h.increasing hc.increasing
      fun key => (h.keys key).trans (hc.keys key).symm
  rw [h.eq_map, hc.eq_map, hnames]

theorem SortedPartition.functions_ne_nil {fs : List FunctionRecord} {categories : List Category}
    (h : SortedPartition fs categories) {c : Category} (hc : c ∈ categories) : c.functions ≠ [] := by
  obtain ⟨f, hf, hkey⟩ := (h.keys c.name).1 (List.mem_map_of_mem hc)
  rw [h.functions c hc]
  exact List.ne_nil_of_mem (List.mem_filter.2 ⟨hf, by simpa using hkey⟩)

/-! ### The procedure -/

/-- The buckets of functions by the names of their categories, as one pass leaves them. -/
def categoryBuckets (fs : List FunctionRecord) : List (String × List FunctionRecord) :=
  Buckets.gather (fun _ => []) (fs.map fun f => (f.categoryKey, f))

/-- The order of pairs: by the first parts, and where these are the same by the second parts, whatever `le`
says of them. -/
def pairLe {β : Type} (le : β → β → Bool) (a b : String × β) : Bool :=
  if a.1 = b.1 then le a.2 b.2 else decide (a.1 < b.1)

theorem keys_categoryBuckets (fs : List FunctionRecord) :
    (categoryBuckets fs).map Prod.fst = (fs.map (·.categoryKey)).eraseDups := by
  rw [categoryBuckets, Buckets.keys_gather, List.map_map]
  rfl

theorem categoryBuckets_eq (fs : List FunctionRecord) :
    categoryBuckets fs = (fs.map (·.categoryKey)).eraseDups.map fun key => (key, members fs key) := by
  rw [categoryBuckets, Buckets.gather_eq, List.map_map]
  refine List.map_congr_left fun key _ => ?_
  have hvalues : Buckets.valuesOf (fs.map fun f => (f.categoryKey, f)) key = members fs key := by
    rw [Buckets.valuesOf, List.filter_map, List.map_map]
    exact List.map_id _
  rw [hvalues, Buckets.seeded]
  cases (members fs key).head? <;> rfl

/-- Sorting compares elements at different places only. -/
theorem map_mergeSort_of_pairwise {α β : Type} {r : α → α → Bool} {s : β → β → Bool} {f : α → β}
    {l : List α} (h : l.Pairwise fun a b => r a b = s (f a) (f b)) :
    (l.mergeSort r).map f = (l.map f).mergeSort s := by
  match l with
  | [] => simp
  | [a] => simp
  | a :: b :: l =>
    have hsplit := List.take_append_drop ((l.length + 1 + 1 + 1) / 2) (a :: b :: l)
    rw [← hsplit, List.pairwise_append] at h
    obtain ⟨hfront, hback, hacross⟩ := h
    -- only the two halves are merged, and each is sorted on its own
    simp only [List.mergeSort, List.MergeSort.Internal.splitInTwo_fst,
      List.MergeSort.Internal.splitInTwo_snd, List.map_cons, List.length_cons, List.length_map]
    rw [List.map_merge (s := s) fun x hx y hy =>
        hacross x (List.mem_mergeSort.1 hx) y (List.mem_mergeSort.1 hy),
      map_mergeSort_of_pairwise hfront, map_mergeSort_of_pairwise hback]
    rw [List.map_take, List.map_drop, List.map_cons, List.map_cons]
termination_by l.length

/-- Whatever the order of lists of functions, sorting the buckets gives the categories: no two buckets have the
same name, so their functions are never compared. -/
theorem categorize_eq_sorted (le : List FunctionRecord → List FunctionRecord → Bool)
    (fs : List FunctionRecord) :
    categorize fs = ((categoryBuckets fs).mergeSort (pairLe le)).map fun b => ⟨b.1, b.2⟩ := by
  have hpairs : (fs.map (·.categoryKey)).eraseDups.Pairwise fun a b =>
      decide (a ≤ b) = pairLe le (a, members fs a) (b, members fs b) := by
    refine (nodup_eraseDups _).imp fun {a b} hne => ?_
    rw [pairLe, if_neg hne, decide_eq_decide]
    exact ⟨fun hle => String.not_le.1 fun hba => hne (String.le_antisymm hle hba),
      fun hlt => String.not_lt.1 (String.lt_asymm hlt)⟩
  rw [categoryBuckets_eq, ← map_mergeSort_of_pairwise hpairs, List.map_map]
  rfl

/-! ### Both ways together -/

/-- **Categories are the sorted partition of functions by their keys.** So no function is lost or made up, no
category is empty, and functions taken out of their categories fall into the same categories again.  The buckets
of one pass have distinct names, so that sorting them never has to compare functions, and they give the same
categories. -/
theorem categorize_partition (fs : List FunctionRecord) :
    (∀ f key, FunctionRecord.categoryKey f = key ↔ f.HasKey key) ∧
      (∀ categories, categories = categorize fs ↔ SortedPartition fs categories) ∧
      ((categorize fs).flatMap (·.functions)).Perm fs ∧
      (∀ c ∈ categorize fs, c.functions ≠ []) ∧
      ((categoryBuckets fs).map Prod.fst).Nodup ∧
      (∀ le, categorize fs =
        ((categoryBuckets fs).mergeSort (pairLe le)).map fun b => ⟨b.1, b.2⟩) ∧
      categorize ((categorize fs).flatMap (·.functions)) = categorize fs := by
  refine ⟨fun f key => FunctionRecord.categoryKey_eq_iff, fun categories => eq_categorize_iff,
    functions_categorize_perm fs, fun c hc => (sortedPartition_categorize fs).functions_ne_nil hc, ?_,
    fun le => categorize_eq_sorted le fs, categorize_congr (members_functions_categorize fs)⟩
  rw [keys_categoryBuckets]
  exact nodup_eraseDups _

end ScriptDoc
