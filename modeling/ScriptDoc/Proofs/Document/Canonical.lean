import ScriptDoc.Dump.Import
import ScriptDoc.Proofs.Document.Categories
import ScriptDoc.Proofs.Document.Reconcile
import ScriptDoc.Source.Generation

/-!
# Canonical documents

A document is *canonical* if names are distinct, categories are sorted by name and not empty, and
every function stands in the category that follows from its record.  A document that was read need
not be canonical; the library makes no other ones.

* `Document.DistinctNames`, `Document.Canonical`, the invariant;
* `Document.Produced`, the four ways in which the library makes documents: by a merge, from source
  units, from a dump, and by folding two or more documents;
* `Document.Produced.canonical`.

All four end in `categorize`, so what is left for each of them is that names are distinct.
-/

namespace ScriptDoc

/-- Functions, enums and globals each have distinct names. -/
structure Document.DistinctNames (d : Document) : Prop where
  functions : (names d.functions).Nodup
  enums : (names d.enums).Nodup
  globals : (names d.globals).Nodup

instance (d : Document) : Decidable d.DistinctNames :=
  decidable_of_iff ((names d.functions).Nodup ∧ (names d.enums).Nodup ∧ (names d.globals).Nodup)
    ⟨fun ⟨hf, he, hg⟩ => ⟨hf, he, hg⟩, fun h => ⟨h.functions, h.enums, h.globals⟩⟩

/-- The invariant of documents that the library makes. -/
structure Document.Canonical (d : Document) : Prop extends d.DistinctNames where
  categories_lt : (d.categories.map (·.name)).Pairwise (· < ·)
  functions_ne_nil : ∀ c ∈ d.categories, c.functions ≠ []
  categoryKey_eq : ∀ c ∈ d.categories, ∀ f ∈ c.functions, f.categoryKey = c.name

instance (d : Document) : Decidable d.Canonical :=
  decidable_of_iff
    (d.DistinctNames ∧ (d.categories.map (·.name)).Pairwise (· < ·) ∧
      (∀ c ∈ d.categories, c.functions ≠ []) ∧
      ∀ c ∈ d.categories, ∀ f ∈ c.functions, f.categoryKey = c.name)
    ⟨fun ⟨hn, hlt, hne, hkey⟩ => ⟨hn, hlt, hne, hkey⟩,
      fun h => ⟨h.toDistinctNames, h.categories_lt, h.functions_ne_nil, h.categoryKey_eq⟩⟩

namespace Document

theorem names_functions_perm (fs : List FunctionRecord) (es : List EnumRecord)
    (gs : List GlobalRecord) :
    (names (Document.mk (categorize fs) es gs).functions).Perm (names fs) :=
  (functions_categorize_perm fs).map _

/-- Categories made anew are in order, whatever the functions are. -/
theorem canonical_of_categorize {fs : List FunctionRecord} {es : List EnumRecord}
    {gs : List GlobalRecord} (hf : (names fs).Nodup) (he : (names es).Nodup)
    (hg : (names gs).Nodup) : (Document.mk (categorize fs) es gs).Canonical where
  functions := (names_functions_perm fs es gs).nodup_iff.2 hf
  enums := he
  globals := hg
  categories_lt := by
    have hnames : (categorize fs).map (·.name) = categoryNames fs := by
      rw [categorize, List.map_map]
      exact List.map_id _
    rw [hnames]
    exact categoryNames_lt fs
  functions_ne_nil := by
    intro c hc
    obtain ⟨key, hkey, rfl⟩ := List.mem_map.1 hc
    exact fun hnil => members_eq_nil.1 hnil hkey
  categoryKey_eq := by
    intro c hc f hf
    obtain ⟨key, -, rfl⟩ := List.mem_map.1 hc
    exact (mem_members.1 hf).2

/-! ### Merging -/

theorem merge_canonical (base incoming : Document) : (base.merge incoming).Canonical :=
  canonical_of_categorize (nodup_names_reconcile FunctionRecord.mergeRule_lawful _ _)
    (nodup_names_reconcile EnumRecord.mergeRule_lawful _ _)
    (nodup_names_reconcile GlobalRecord.mergeRule_lawful _ _)

/-- Every step of a fold ends in a merge. -/
theorem foldFrom_canonical (cumulative : Bool) (total : Nat) {position : Nat}
    {result previous : Document} {ds : List Document} (h : ds ≠ []) :
    (foldFrom cumulative total position result previous ds).1.Canonical := by
  induction ds generalizing position result previous with
  | nil => exact absurd rfl h
  | cons d rest ih =>
    rw [foldFrom]
    cases rest with
    | nil => exact merge_canonical _ d
    | cons e rest => exact ih (List.cons_ne_nil e rest)

theorem fold_canonical (cumulative : Bool) {ds : List Document} (h : 2 ≤ ds.length) :
    (fold cumulative ds).Canonical := by
  match ds, h with
  | _ :: e :: rest, _ => exact foldFrom_canonical cumulative _ (List.cons_ne_nil e rest)

end Document

/-! ### Dumps -/

theorem EnumRecord.names_group (dedupe : Bool) (entries : List (String × EnumMember)) :
    names (EnumRecord.group dedupe entries) = (entries.map (·.1)).eraseDups := by
  rw [names, EnumRecord.group, List.map_map]
  exact List.map_id _

theorem Dump.document_canonical (dedupe : Bool) (ls : List Dump.Line) :
    (Dump.document dedupe ls).Canonical := by
  apply Document.canonical_of_categorize
  · rw [Dump.functions, names_firstNamed]
    exact nodup_eraseDups _
  · rw [EnumRecord.names_group]
    exact nodup_eraseDups _
  · rw [Dump.globals, names_lastNamed]
    exact nodup_eraseDups _

theorem Dump.parse_canonical {dedupe : Bool} {lines : List String} {d : Document}
    {notices : List Notice} (h : Dump.parse dedupe lines = .ok (d, notices)) : d.Canonical := by
  unfold Dump.parse at h
  cases hc : Dump.contents lines with
  | error n => rw [hc] at h; cases h
  | ok ls =>
    rw [hc] at h
    cases h
    exact Dump.document_canonical dedupe ls

/-! ### Source units -/

namespace Generation

theorem Run.nodup_add {identifier : String} {s : Run} {f : FunctionRecord}
    (h : (names s.functions).Nodup) : (names (s.add identifier f).functions).Nodup := by
  unfold Run.add
  cases hf : findNamed? f.name s.functions with
  | some first => exact h
  | none => exact nodup_names_append_singleton h (findNamed?_eq_none.1 hf)

theorem Run.nodup_foldl_add {identifier : String} (fs : List FunctionRecord) {s : Run}
    (h : (names s.functions).Nodup) :
    (names (fs.foldl (Run.add identifier) s).functions).Nodup := by
  induction fs generalizing s with
  | nil => exact h
  | cons f fs ih => exact ih (Run.nodup_add h)

theorem Run.nodup_unit {marker : String} {strict : Bool} {s : Run} {identifier : String}
    {lines : List String} (h : (names s.functions).Nodup) :
    (names (s.unit marker strict identifier lines).functions).Nodup := by
  unfold Run.unit
  cases SourceUnit.parse marker strict identifier lines with
  | mk result notices =>
    cases result with
    | error e => exact h
    | ok u =>
      dsimp only
      split
      · exact Run.nodup_foldl_add u.functions h
      · exact Run.nodup_foldl_add u.functions h

theorem Run.nodup_foldl_unit {marker : String} {strict : Bool}
    (units : List (String × List String)) {s : Run} (h : (names s.functions).Nodup) :
    (names (units.foldl (fun s u => s.unit marker strict u.1 u.2) s).functions).Nodup := by
  induction units generalizing s with
  | nil => exact h
  | cons u units ih => exact ih (Run.nodup_unit h)

theorem generate_canonical (marker : String) (strict : Bool)
    (units : List (String × List String)) :
    (generate marker strict units).1.document.Canonical :=
  Document.canonical_of_categorize (Run.nodup_foldl_unit units List.nodup_nil) List.nodup_nil
    List.nodup_nil

end Generation

/-! ### All documents that the library makes -/

/-- The ways in which the library makes documents. Nothing is asked of the documents that go into a
merge: names may be repeated, and categories may be wrong, repeated or empty. -/
inductive Document.Produced : Document → Prop
  | merged (base incoming : Document) : Produced (base.merge incoming)
  | generated (marker : String) (strict : Bool) (units : List (String × List String)) :
      Produced (Generation.generate marker strict units).1.document
  | imported (dedupe : Bool) (lines : List String) (d : Document) (notices : List Notice)
      (h : Dump.parse dedupe lines = .ok (d, notices)) : Produced d
  | folded (cumulative : Bool) (ds : List Document) (h : 2 ≤ ds.length) :
      Produced (Document.fold cumulative ds)

/-- **Every document that the library makes is canonical.** -/
theorem Document.Produced.canonical {d : Document} (h : d.Produced) : d.Canonical := by
  cases h with
  | merged base incoming => exact Document.merge_canonical base incoming
  | generated marker strict units => exact Generation.generate_canonical marker strict units
  | imported dedupe lines d notices h => exact Dump.parse_canonical h
  | folded cumulative ds h => exact Document.fold_canonical cumulative h

/-- Two documents with a repeated name, an empty category and categories out of place. -/
theorem Document.fold_unsorted_canonical :
    (Document.fold true
      [{ categories := [⟨"z", [{ name := "Util_A" }, { name := "Util_A", usage := some "u" }]⟩,
          ⟨"a", []⟩] },
        { categories := [⟨"z", [{ name := "Run", groups := ["Flow"] }, { name := "Util_A" }]⟩]
          globals := [{ name := "g" }, { name := "g", value := some "1" }] }]).Canonical :=
  Document.Produced.canonical (.folded true _ (by decide))

end ScriptDoc
