import Mathlib.Data.List.Induction
import ScriptDoc.Proofs.Document.Canonical

/-!
# The history of a name

A cumulative fold merges documents into the result so far, one after the other.  Its outcome has a
closed form: the record of a name follows from the *history* of that name, the list of its records
from the first document to the last.

* `history`, the records of a name in a list of documents;
* `lastSet`, `lastFilled`: the last value, or the last list that is not empty;
* `FunctionRecord.SumsUp`, `EnumRecord.SumsUp`, `GlobalRecord.SumsUp`: the record of a history, field
  by field;
* `Document.fold_cumulative_sumsUp`: a cumulative fold has exactly the names of its documents, each
  once and with the record of its history.
-/

namespace ScriptDoc

/-! ### Last values -/

section Last

variable {α β : Type}

/-- The last value that a field of some records has. -/
def lastSet (field : α → Option β) (rs : List α) : Option β := (rs.filterMap field).getLast?

/-- The last list in a field of some records that is not empty. -/
def lastFilled (field : α → List β) (rs : List α) : List β :=
  ((rs.map field).filter (!·.isEmpty)).getLastD []

theorem lastSet_append_singleton (field : α → Option β) (rs : List α) (r : α) :
    lastSet field (rs ++ [r]) = Patch.value (lastSet field rs) (field r) := by
  unfold lastSet
  cases h : field r with
  | none => simp [h]
  | some a => simp [h]

theorem lastFilled_append_singleton (field : α → List β) (rs : List α) (r : α) :
    lastFilled field (rs ++ [r]) = Patch.list (lastFilled field rs) (field r) := by
  unfold lastFilled
  rw [List.map_append, List.filter_append]
  cases h : field r with
  | nil => simp [h]
  | cons a as => simp [h]

variable {merge : α → α → α}

/-- A field that a merge takes from the second record if it is set there. -/
theorem foldl_merge_value {field : α → Option β}
    (h : ∀ a b, field (merge a b) = Patch.value (field a) (field b)) (r : α) (rs : List α) :
    field (rs.foldl merge r) = lastSet field (r :: rs) := by
  -- the last record decides, so the induction is from the end
  induction rs using List.reverseRecOn with
  | nil => cases hr : field r <;> simp [lastSet, hr]
  | append_singleton rs s ih =>
    rw [List.foldl_append, List.foldl_cons, List.foldl_nil, h, ih, ← List.cons_append,
      lastSet_append_singleton]

/-- A list that a merge takes from the second record unless it is empty there, up to a relation such
as a permutation. -/
theorem foldl_merge_list {R : List β → List β → Prop} (hrefl : ∀ l, R l l)
    (htrans : ∀ {l m n}, R l m → R m n → R l n) {field : α → List β}
    (h : ∀ a b, R (field (merge a b)) (Patch.list (field a) (field b))) (r : α) (rs : List α) :
    R (field (rs.foldl merge r)) (lastFilled field (r :: rs)) := by
  induction rs using List.reverseRecOn with
  | nil =>
    have hr : lastFilled field [r] = field r := by cases hr : field r <;> simp [lastFilled, hr]
    rw [hr]
    exact hrefl _
  | append_singleton rs s ih =>
    rw [List.foldl_append, List.foldl_cons, List.foldl_nil, ← List.cons_append,
      lastFilled_append_singleton]
    refine htrans (h _ s) ?_
    cases field s with
    | nil => exact ih
    | cons a as => exact hrefl _

/-- A field that a merge keeps. -/
theorem foldl_merge_kept {γ : Type} {field : α → γ} (h : ∀ a b, field (merge a b) = field a)
    (r : α) (rs : List α) : field (rs.foldl merge r) = field r := by
  induction rs generalizing r with
  | nil => rfl
  | cons s rs ih => rw [List.foldl_cons, ih, h]

end Last

/-! ### Records of one name -/

/-- The records of a name, from the first document to the last. -/
def history {α : Type} [Named α] (records : Document → List α) (ds : List Document) (x : String) :
    List α :=
  ds.filterMap fun d => findNamed? x (records d)

/-- What the records of a function add up to. -/
structure FunctionRecord.SumsUp (rs : List FunctionRecord) (f : FunctionRecord) : Prop where
  shortDescription : f.shortDescription = lastSet FunctionRecord.shortDescription rs
  usage : f.usage = lastSet FunctionRecord.usage rs
  returnDescription : f.returnDescription = lastSet FunctionRecord.returnDescription rs
  returnType : f.returnType = lastSet FunctionRecord.returnType rs
  origin : f.origin = lastSet FunctionRecord.origin rs
  extendedDescription : f.extendedDescription = lastFilled FunctionRecord.extendedDescription rs
  parameters : f.parameters = lastFilled FunctionRecord.parameters rs
  /-- The groups are those of the first record. -/
  groups : rs.head?.map FunctionRecord.groups = some f.groups

/-- What the records of an enum add up to, where the order of members does not count. -/
structure EnumRecord.SumsUp (rs : List EnumRecord) (e : EnumRecord) : Prop where
  members : e.members.Perm (lastFilled EnumRecord.members rs)

/-- What the records of a global add up to. -/
structure GlobalRecord.SumsUp (rs : List GlobalRecord) (g : GlobalRecord) : Prop where
  value : g.value = lastSet GlobalRecord.value rs
  description : g.description = lastSet GlobalRecord.description rs
  typeName : g.typeName = lastSet GlobalRecord.typeName rs

theorem FunctionRecord.foldl_merge_sumsUp (r : FunctionRecord) (rs : List FunctionRecord) :
    FunctionRecord.SumsUp (r :: rs) (rs.foldl FunctionRecord.merge r) where
  shortDescription := foldl_merge_value (fun a b => by rw [merge_eq]) r rs
  usage := foldl_merge_value (fun a b => by rw [merge_eq]) r rs
  returnDescription := foldl_merge_value (fun a b => by rw [merge_eq]) r rs
  returnType := foldl_merge_value (fun a b => by rw [merge_eq]) r rs
  origin := foldl_merge_value (fun a b => by rw [merge_eq]) r rs
  extendedDescription := foldl_merge_list Eq.refl Eq.trans (fun a b => by rw [merge_eq]) r rs
  parameters := foldl_merge_list Eq.refl Eq.trans (fun a b => by rw [merge_eq]) r rs
  groups := congrArg some (foldl_merge_kept (fun a b => by rw [merge_eq]) r rs).symm

theorem EnumRecord.foldl_merge_sumsUp (r : EnumRecord) (rs : List EnumRecord) :
    EnumRecord.SumsUp (r :: rs) (rs.foldl EnumRecord.merge r) where
  members := foldl_merge_list List.Perm.refl List.Perm.trans EnumRecord.merge_members_perm r rs

theorem GlobalRecord.foldl_merge_sumsUp (r : GlobalRecord) (rs : List GlobalRecord) :
    GlobalRecord.SumsUp (r :: rs) (rs.foldl GlobalRecord.merge r) where
  value := foldl_merge_value (fun a b => by rw [merge_eq]) r rs
  description := foldl_merge_value (fun a b => by rw [merge_eq]) r rs
  typeName := foldl_merge_value (fun a b => by rw [merge_eq]) r rs

/-! ### Folding documents -/

namespace Document

theorem findNamed?_merge_functions {a b : Document} (ha : a.DistinctNames)
    (hb : b.DistinctNames) (x : String) :
    findNamed? x (a.merge b).functions =
      Option.merge FunctionRecord.merge (findNamed? x a.functions) (findNamed? x b.functions) :=
  (findNamed?_perm (functions_categorize_perm _) (merge_canonical a b).functions x).trans
    (findNamed?_reconcile FunctionRecord.mergeRule_lawful ha.functions hb.functions x)

theorem findNamed?_merge_enums {a b : Document} (ha : a.DistinctNames) (hb : b.DistinctNames)
    (x : String) :
    findNamed? x (a.merge b).enums =
      Option.merge EnumRecord.merge (findNamed? x a.enums) (findNamed? x b.enums) :=
  findNamed?_reconcile EnumRecord.mergeRule_lawful ha.enums hb.enums x

theorem findNamed?_merge_globals {a b : Document} (ha : a.DistinctNames) (hb : b.DistinctNames)
    (x : String) :
    findNamed? x (a.merge b).globals =
      Option.merge GlobalRecord.merge (findNamed? x a.globals) (findNamed? x b.globals) :=
  findNamed?_reconcile GlobalRecord.mergeRule_lawful ha.globals hb.globals x

theorem foldFrom_cumulative (total position : Nat) (result previous : Document)
    (ds : List Document) :
    (foldFrom true total position result previous ds).1 = ds.foldl merge result := by
  induction ds generalizing position result previous with
  | nil => rfl
  | cons d ds ih => rw [foldFrom, List.foldl_cons, if_pos rfl, ih]; rfl

theorem fold_cumulative (d : Document) (ds : List Document) :
    fold true (d :: ds) = ds.foldl merge d :=
  foldFrom_cumulative _ _ d d ds

theorem foldl_merge_distinctNames {d : Document} (h : d.DistinctNames) (ds : List Document) :
    (ds.foldl merge d).DistinctNames := by
  induction ds generalizing d with
  | nil => exact h
  | cons e ds ih => exact ih (merge_canonical d e).toDistinctNames

/-- If a merge of documents is a merge of the records of each name, a run of merges is a run of
merges of the records in the history of each name. -/
theorem findNamed?_foldl_merge {α : Type} [Named α] {records : Document → List α}
    {mergeRecords : α → α → α}
    (hm : ∀ {a b : Document}, a.DistinctNames → b.DistinctNames → ∀ x,
      findNamed? x (records (a.merge b)) =
        Option.merge mergeRecords (findNamed? x (records a)) (findNamed? x (records b)))
    {d : Document} {ds : List Document} (hd : d.DistinctNames) (hds : ∀ e ∈ ds, e.DistinctNames)
    (x : String) :
    findNamed? x (records (ds.foldl merge d)) =
      match history records (d :: ds) x with
      | [] => none
      | r :: rs => some (rs.foldl mergeRecords r) := by
  induction ds generalizing d with
  | nil => cases h : findNamed? x (records d) <;> simp [history, h]
  | cons e ds ih =>
    have he := hds e List.mem_cons_self
    rw [List.foldl_cons, ih (merge_canonical d e).toDistinctNames
      fun e' he' => hds e' (List.mem_cons_of_mem _ he')]
    unfold history
    rw [List.filterMap_cons, List.filterMap_cons, List.filterMap_cons, hm hd he]
    cases findNamed? x (records d) <;> cases findNamed? x (records e) <;> rfl

/-- The records `result` have the names of the documents, each once, and the record of a name is one
that the history of the name sums up to. -/
def Accumulates {α : Type} [Named α] (records : Document → List α)
    (SumsUp : List α → α → Prop) (ds : List Document) (result : List α) : Prop :=
  (names result).Nodup ∧
    (∀ x, x ∈ names result ↔ ∃ d ∈ ds, x ∈ names (records d)) ∧
    ∀ r ∈ result, SumsUp (history records ds (Named.name r)) r

theorem accumulates_nil {α : Type} [Named α] (records : Document → List α)
    (SumsUp : List α → α → Prop) : Accumulates records SumsUp [] [] :=
  ⟨List.nodup_nil, by simp, by simp⟩

theorem accumulates_foldl_merge {α : Type} [Named α] {records : Document → List α}
    {mergeRecords : α → α → α} {SumsUp : List α → α → Prop}
    (hm : ∀ {a b : Document}, a.DistinctNames → b.DistinctNames → ∀ x,
      findNamed? x (records (a.merge b)) =
        Option.merge mergeRecords (findNamed? x (records a)) (findNamed? x (records b)))
    (hs : ∀ r rs, SumsUp (r :: rs) (rs.foldl mergeRecords r))
    {d : Document} {ds : List Document} (hd : d.DistinctNames) (hds : ∀ e ∈ ds, e.DistinctNames)
    (hn : (names (records (ds.foldl merge d))).Nodup) :
    Accumulates records SumsUp (d :: ds) (records (ds.foldl merge d)) := by
  have hfind := findNamed?_foldl_merge hm hd hds
  refine ⟨hn, fun x => ?_, fun r hr => ?_⟩
  · have hnil : history records (d :: ds) x = [] ↔ ∀ e ∈ d :: ds, x ∉ names (records e) := by
      simp only [history, List.filterMap_eq_nil_iff, findNamed?_eq_none]
    rw [← not_iff_not, ← findNamed?_eq_none, hfind]
    simp only [not_exists, not_and]
    rw [← hnil]
    cases history records (d :: ds) x <;> simp
  · have hr' := findNamed?_of_mem hn hr
    rw [hfind] at hr'
    cases h : history records (d :: ds) (Named.name r) with
    | nil => simp [h] at hr'
    | cons s rs =>
      simp only [h, Option.some.injEq] at hr'
      exact hr' ▸ hs s rs

/-- **A cumulative fold in closed form.** -/
theorem fold_cumulative_sumsUp {ds : List Document} (h : ∀ d ∈ ds, d.DistinctNames) :
    Accumulates Document.functions FunctionRecord.SumsUp ds (fold true ds).functions ∧
      Accumulates Document.enums EnumRecord.SumsUp ds (fold true ds).enums ∧
      Accumulates Document.globals GlobalRecord.SumsUp ds (fold true ds).globals := by
  cases ds with
  | nil => exact ⟨accumulates_nil _ _, accumulates_nil _ _, accumulates_nil _ _⟩
  | cons d ds =>
    have hd := h d List.mem_cons_self
    have hds : ∀ e ∈ ds, e.DistinctNames := fun e he => h e (List.mem_cons_of_mem _ he)
    have hn := foldl_merge_distinctNames hd ds
    rw [fold_cumulative]
    exact ⟨accumulates_foldl_merge findNamed?_merge_functions FunctionRecord.foldl_merge_sumsUp hd
        hds hn.functions,
      accumulates_foldl_merge findNamed?_merge_enums EnumRecord.foldl_merge_sumsUp hd hds hn.enums,
      accumulates_foldl_merge findNamed?_merge_globals GlobalRecord.foldl_merge_sumsUp hd hds
        hn.globals⟩

/-- Three documents with records of one function and of one enum. -/
theorem fold_cumulative_sumsUp_three :
    ∃ ds : List Document, (∀ d ∈ ds, d.DistinctNames) ∧
      (history Document.functions ds "Run").map (·.shortDescription) = [some "old", some ""] ∧
      Accumulates Document.functions FunctionRecord.SumsUp ds (fold true ds).functions ∧
      Accumulates Document.enums EnumRecord.SumsUp ds (fold true ds).enums ∧
      Accumulates Document.globals GlobalRecord.SumsUp ds (fold true ds).globals := by
  refine ⟨[{ categories := [⟨"Flow", [{ name := "Run", shortDescription := some "old"
                                        groups := ["Flow"] }]⟩]
             enums := [⟨"E", [⟨"A", some "1"⟩]⟩] },
    { enums := [⟨"E", []⟩], globals := [{ name := "Size", value := some "1" }] },
    { categories := [⟨"Other", [{ name := "Run", shortDescription := some "" }]⟩] }],
    by decide, by decide, ?_⟩
  exact fold_cumulative_sumsUp (by decide)

end Document

end ScriptDoc
