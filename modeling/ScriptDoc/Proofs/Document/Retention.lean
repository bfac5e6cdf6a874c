import ScriptDoc.Proofs.Document.Canonical

/-!
# What a merge keeps

A field of a record *has* something if it is set, or if it is a list that is not empty.  Merging two
records keeps all that either has; only the groups of a function stay those of the first record.  A
merge of documents therefore keeps all that the incoming document has, and of the base it keeps what
the record of each name has.  Where the base repeats a name, that record is the last one: what only the
earlier ones have is lost.

* `FunctionRecord.has`, `EnumRecord.has`, `GlobalRecord.has`: the fields that a merge fills;
* `has_foldl_merge`: the record of a name after a run of merges;
* `Retains`, exactly what is there after a merge, and `Document.merge_retains`;
* `Document.merge_loses_repeated`: a base with two records of one function.
-/

namespace ScriptDoc

/-! ### Fields -/

/-- The fields of a function that a merge fills. -/
inductive FunctionField where
  | shortDescription
  | extendedDescription
  | usage
  | returnType
  | returnDescription
  | parameters
  | origin
  deriving DecidableEq, Repr

/-- The field of an enum that a merge fills. -/
inductive EnumField where
  | members
  deriving DecidableEq, Repr

/-- The fields of a global that a merge fills. -/
inductive GlobalField where
  | value
  | description
  | typeName
  deriving DecidableEq, Repr

/-- Whether there is something in a field of a function. -/
def FunctionRecord.has (f : FunctionRecord) : FunctionField → Bool
  | .shortDescription => f.shortDescription.isSome
  | .extendedDescription => !f.extendedDescription.isEmpty
  | .usage => f.usage.isSome
  | .returnType => f.returnType.isSome
  | .returnDescription => f.returnDescription.isSome
  | .parameters => !f.parameters.isEmpty
  | .origin => f.origin.isSome

/-- Whether there is something in a field of an enum. -/
def EnumRecord.has (e : EnumRecord) : EnumField → Bool
  | .members => !e.members.isEmpty

/-- Whether there is something in a field of a global. -/
def GlobalRecord.has (g : GlobalRecord) : GlobalField → Bool
  | .value => g.value.isSome
  | .description => g.description.isSome
  | .typeName => g.typeName.isSome

theorem Patch.isSome_value {β : Type} (a b : Option β) :
    (Patch.value a b).isSome = (a.isSome || b.isSome) := by
  cases a <;> cases b <;> rfl

theorem Patch.isEmpty_list {β : Type} (l m : List β) :
    (Patch.list l m).isEmpty = (l.isEmpty && m.isEmpty) := by
  cases m <;> simp

/-- A merged function has what one of the two has. -/
theorem FunctionRecord.has_merge (a b : FunctionRecord) (field : FunctionField) :
    (a.merge b).has field = (a.has field || b.has field) := by
  rw [merge_eq]
  cases field <;> simp [has, Patch.isSome_value, Patch.isEmpty_list]

theorem EnumRecord.has_merge (a b : EnumRecord) (field : EnumField) :
    (a.merge b).has field = (a.has field || b.has field) := by
  cases field
  have hperm := (merge_members_perm a b).isEmpty_eq
  simp [has, hperm, Patch.isEmpty_list]

theorem GlobalRecord.has_merge (a b : GlobalRecord) (field : GlobalField) :
    (a.merge b).has field = (a.has field || b.has field) := by
  rw [merge_eq]
  cases field <;> simp [has, Patch.isSome_value]

/-! ### Lists of records -/

/-- Records that are merged one after the other, with or without one to begin with, add up to one that
has what any of them has. -/
theorem has_foldl_merge {α φ : Type} {merge : α → α → α} {has : α → φ → Bool}
    (hmerge : ∀ a b field, has (merge a b) field = (has a field || has b field))
    {o : Option α} {rs : List α} {r : α}
    (h : rs.foldl (fun o s => Option.merge merge o (some s)) o = some r) (field : φ) :
    has r field = true ↔ (∃ b, o = some b ∧ has b field = true) ∨ ∃ s ∈ rs, has s field = true := by
  induction rs generalizing o with
  | nil =>
    obtain rfl : o = some r := h
    simp
  | cons s rs ih =>
    rw [ih h]
    cases o with
    | none => simp
    | some b => simp [hmerge, or_assoc]

section Named

variable {α φ : Type} [Named α] {rule : MergeRule α} {has : α → φ → Bool}

/-- Exactly what is there after records `incoming` have been brought into records `base`: the names of
both, each once, and for each of them what the last record of that name in `base` has, together with what
some record of that name in `incoming` has. -/
structure Retains (has : α → φ → Bool) (base incoming result : List α) : Prop where
  nodup : (names result).Nodup
  mem_names : ∀ x, x ∈ names result ↔ x ∈ names base ∨ x ∈ names incoming
  has_iff : ∀ r ∈ result, ∀ field, has r field = true ↔
    (∃ b, (base.filter (Named.name · = Named.name r)).getLast? = some b ∧ has b field = true) ∨
      ∃ s ∈ incoming, Named.name s = Named.name r ∧ has s field = true

theorem retains_reconcile (hl : rule.Lawful)
    (hmerge : ∀ a b field, has (rule.merge a b) field = (has a field || has b field))
    (base incoming : List α) : Retains has base incoming (reconcile rule base incoming).1 where
  nodup := nodup_names_reconcile hl base incoming
  mem_names x := by rw [names_reconcile hl, List.mem_eraseDups, List.mem_append]
  has_iff r hr field := by
    have hfind := findNamed?_of_mem (nodup_names_reconcile hl base incoming) hr
    rw [findNamed?_reconcile_foldl hl, findNamed?_lastNamed] at hfind
    rw [has_foldl_merge hmerge hfind]
    simp only [List.mem_filter, decide_eq_true_eq, and_assoc]

/-- The order of the records does not matter. -/
theorem Retains.perm {base incoming result result' : List α} (h : Retains has base incoming result)
    (hp : result'.Perm result) : Retains has base incoming result' where
  nodup := (hp.map Named.name).nodup_iff.2 h.nodup
  mem_names x := (hp.map Named.name).mem_iff.trans (h.mem_names x)
  has_iff r hr := h.has_iff r (hp.mem_iff.1 hr)

end Named

/-! ### Documents -/

namespace Document

/-- **What is there after a merge.** No name of either document is lost, and nothing that a record of the
incoming document has; of the records of one name in the base, it is the last one whose fields are kept. -/
theorem merge_retains (base incoming : Document) :
    Retains FunctionRecord.has base.functions incoming.functions (base.merge incoming).functions ∧
      Retains EnumRecord.has base.enums incoming.enums (base.merge incoming).enums ∧
      Retains GlobalRecord.has base.globals incoming.globals (base.merge incoming).globals :=
  ⟨(retains_reconcile FunctionRecord.mergeRule_lawful FunctionRecord.has_merge _ _).perm
      (functions_categorize_perm _),
    retains_reconcile EnumRecord.mergeRule_lawful EnumRecord.has_merge _ _,
    retains_reconcile GlobalRecord.mergeRule_lawful GlobalRecord.has_merge _ _⟩

/-- Not all that a record of the base has is kept: here the base has two records of one function, of which
the first is lost although nothing comes in. -/
theorem merge_loses_repeated :
    ¬ ∀ base incoming : Document, ∀ r ∈ base.functions ++ incoming.functions,
      ∃ s ∈ (base.merge incoming).functions, s.name = r.name ∧
        ∀ field, r.has field = true → s.has field = true := by
  intro h
  obtain ⟨s, hs, -, hkept⟩ := h
    { categories := [⟨"Flow", [{ name := "Run", shortDescription := some "Starts." }]⟩,
        ⟨"Other", [{ name := "Run", returnType := some "Bool" }]⟩] } empty
    { name := "Run", shortDescription := some "Starts." } (by decide)
  have hlost : ∀ s ∈ (reconcile FunctionRecord.mergeRule
      [{ name := "Run", shortDescription := some "Starts." },
        { name := "Run", returnType := some "Bool" }] []).1, s.has .shortDescription = false := by
    decide
  have hnone := hlost s ((functions_categorize_perm _).mem_iff.1 hs)
  exact absurd (hkept .shortDescription rfl) (by simp [hnone])

end Document

end ScriptDoc
