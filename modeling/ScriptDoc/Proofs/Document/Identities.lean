import ScriptDoc.Proofs.Document.Canonical

/-!
# Merges that change nothing

A merge with the empty document only sorts the functions into categories again and drops records
whose name is repeated.  It leaves a document as it is exactly if there is nothing to sort and
nothing to drop.

* `categorize_flatMap_functions`: categories that are in order are found again from their functions;
* `reconcile_nil_right`, `reconcile_nil_left`, `reconcile_self`: lists of records with distinct names;
* `Document.merge_identities`: the canonical documents are those that such a merge keeps.
-/

namespace ScriptDoc

/-! ### Categories in order -/

theorem members_of_forall_categoryKey {fs : List FunctionRecord} {name : String}
    (h : ∀ f ∈ fs, f.categoryKey = name) (key : String) :
    members fs key = if name = key then fs else [] := by
  split
  · next hkey =>
    subst hkey
    exact List.filter_eq_self.2 fun f hf => beq_iff_eq.2 (h f hf)
  · next hkey =>
    refine List.filter_eq_nil_iff.2 fun f hf hfk => hkey ?_
    rw [← h f hf, beq_iff_eq.1 hfk]

/-- Among categories with different names, each has its own functions as members. -/
theorem members_flatMap_functions {cs : List Category} (hd : (cs.map (·.name)).Nodup)
    (hkey : ∀ c ∈ cs, ∀ f ∈ c.functions, f.categoryKey = c.name) {c : Category} (hc : c ∈ cs) :
    members (cs.flatMap (·.functions)) c.name = c.functions := by
  induction cs with
  | nil => cases hc
  | cons b cs ih =>
    obtain ⟨hb, hcs⟩ : b.name ∉ cs.map (·.name) ∧ (cs.map (·.name)).Nodup := List.nodup_cons.1 hd
    have hrest := fun e (he : e ∈ cs) => hkey e (List.mem_cons_of_mem b he)
    rw [List.flatMap_cons, members_append,
      members_of_forall_categoryKey (hkey b List.mem_cons_self)]
    rcases List.mem_cons.1 hc with rfl | hc
    · have hnone : members (cs.flatMap (·.functions)) c.name = [] := by
        refine List.filter_eq_nil_iff.2 fun f hf hfk => hb ?_
        obtain ⟨e, he, hfe⟩ := List.mem_flatMap.1 hf
        rw [← beq_iff_eq.1 hfk, hrest e he f hfe]
        exact List.mem_map_of_mem he
      rw [if_pos rfl, hnone, List.append_nil]
    · have hne : b.name ≠ c.name := fun he => hb (he ▸ List.mem_map_of_mem hc)
      rw [if_neg hne, List.nil_append, ih hcs hrest hc]

theorem mem_categoryNames_flatMap_functions {cs : List Category}
    (hne : ∀ c ∈ cs, c.functions ≠ [])
    (hkey : ∀ c ∈ cs, ∀ f ∈ c.functions, f.categoryKey = c.name) {key : String} :
    key ∈ categoryNames (cs.flatMap (·.functions)) ↔ key ∈ cs.map (·.name) := by
  rw [mem_categoryNames]
  constructor
  · rintro ⟨f, hf, rfl⟩
    obtain ⟨c, hc, hfc⟩ := List.mem_flatMap.1 hf
    rw [hkey c hc f hfc]
    exact List.mem_map_of_mem hc
  · intro h
    obtain ⟨c, hc, rfl⟩ := List.mem_map.1 h
    -- only a category with a function in it leaves a trace among the functions
    obtain ⟨f, hf⟩ := List.exists_mem_of_ne_nil _ (hne c hc)
    exact ⟨f, List.mem_flatMap.2 ⟨c, hc, hf⟩, hkey c hc f hf⟩

/-- Categories in order are found again from their functions. -/
theorem categorize_flatMap_functions {cs : List Category}
    (hlt : (cs.map (·.name)).Pairwise (· < ·)) (hne : ∀ c ∈ cs, c.functions ≠ [])
    (hkey : ∀ c ∈ cs, ∀ f ∈ c.functions, f.categoryKey = c.name) :
    categorize (cs.flatMap (·.functions)) = cs := by
  have hd : (cs.map (·.name)).Nodup := hlt.imp fun hab => String.ne_of_lt hab
  have hnames : categoryNames (cs.flatMap (·.functions)) = cs.map (·.name) :=
    categoryNames_eq hlt fun _ => mem_categoryNames_flatMap_functions hne hkey
  rw [categorize, hnames, List.map_map]
  conv_rhs => rw [← List.map_id cs]
  refine List.map_congr_left fun c hc => ?_
  rw [Function.comp_apply, members_flatMap_functions hd hkey hc, id]

/-! ### Lists of records -/

section Named

variable {α : Type} [Named α] {rule : MergeRule α}

theorem reconcile_nil_right {rs : List α} (h : (names rs).Nodup) : (reconcile rule rs []).1 = rs :=
  lastNamed_eq_self h

theorem reconcile_nil_left (hl : rule.Lawful) {rs : List α} (h : (names rs).Nodup) :
    (reconcile rule [] rs).1 = rs := by
  have hnil : (names ([] : List α)).Nodup := List.nodup_nil
  rw [reconcile_eq hl hnil h, List.map_nil, List.nil_append]
  exact List.filter_eq_self.2 fun r _ => by simp

theorem reconcile_self (hl : rule.Lawful) (hsame : ∀ r, rule.same r r = true) {rs : List α}
    (h : (names rs).Nodup) : (reconcile rule rs rs).1 = rs := by
  have hupdated : ∀ r ∈ rs, rule.updated rs r = r := by
    intro r hr
    rw [MergeRule.updated, findNamed?_of_mem h hr, Option.elim_some,
      hl.merge_of_same r r (hsame r)]
  have hnew : rs.filter (fun r => Named.name r ∉ names rs) = [] :=
    List.filter_eq_nil_iff.2 fun r hr => by simp [name_mem_names hr]
  rw [reconcile_eq hl h h, hnew, List.append_nil]
  conv_rhs => rw [← List.map_id rs]
  exact List.map_congr_left hupdated

end Named

theorem EnumRecord.same_self (e : EnumRecord) : e.same e = true := by
  rw [EnumRecord.same, Bool.and_eq_true]
  exact ⟨beq_self_eq_true e.name, List.isPerm_iff.2 (.refl e.members)⟩

/-! ### Documents -/

namespace Document

theorem Canonical.categorize_functions {d : Document} (h : d.Canonical) :
    categorize d.functions = d.categories :=
  categorize_flatMap_functions h.categories_lt h.functions_ne_nil h.categoryKey_eq

/-- A merge keeps a canonical document if reconciliation keeps each of its lists. -/
theorem Canonical.merge_eq {a b d : Document} (h : d.Canonical)
    (hf : (reconcile FunctionRecord.mergeRule a.functions b.functions).1 = d.functions)
    (he : (reconcile EnumRecord.mergeRule a.enums b.enums).1 = d.enums)
    (hg : (reconcile GlobalRecord.mergeRule a.globals b.globals).1 = d.globals) :
    a.merge b = d := by
  rw [merge, mergeLogged, hf, he, hg, h.categorize_functions]

theorem Canonical.merge_empty_right {d : Document} (h : d.Canonical) : d.merge empty = d :=
  h.merge_eq (reconcile_nil_right h.functions) (reconcile_nil_right h.enums)
    (reconcile_nil_right h.globals)

theorem Canonical.merge_empty_left {d : Document} (h : d.Canonical) : empty.merge d = d :=
  h.merge_eq (reconcile_nil_left FunctionRecord.mergeRule_lawful h.functions)
    (reconcile_nil_left EnumRecord.mergeRule_lawful h.enums)
    (reconcile_nil_left GlobalRecord.mergeRule_lawful h.globals)

theorem Canonical.merge_self {d : Document} (h : d.Canonical) : d.merge d = d :=
  h.merge_eq
    (reconcile_self FunctionRecord.mergeRule_lawful (fun _ => decide_eq_true rfl) h.functions)
    (reconcile_self EnumRecord.mergeRule_lawful EnumRecord.same_self h.enums)
    (reconcile_self GlobalRecord.mergeRule_lawful (fun _ => decide_eq_true rfl) h.globals)

/-- **The canonical documents are those that a merge with the empty document keeps.** A merge of the
empty document with them keeps them too, and so does a merge with themselves. -/
theorem merge_identities (d : Document) :
    (d.merge empty = d ↔ d.Canonical) ∧
      (d.Canonical → d.merge d = d ∧ empty.merge d = d) := by
  refine ⟨⟨fun h => ?_, Canonical.merge_empty_right⟩, fun h => ⟨h.merge_self, h.merge_empty_left⟩⟩
  rw [← h]
  exact merge_canonical d empty

/-- Two categories in order, one with functions that are not sorted by name. The other way round they
are not kept. -/
theorem merge_identities_two_categories :
    ∃ d : Document, d.categories.map (·.name) = ["Flow", "Util"] ∧ d.Canonical ∧
      d.merge empty = d ∧ d.merge d = d ∧ empty.merge d = d ∧
      { d with categories := d.categories.reverse }.merge empty ≠
        { d with categories := d.categories.reverse } := by
  let d : Document :=
    { categories := [⟨"Flow", [{ name := "Run", groups := ["Flow", "Time"] }]⟩,
        ⟨"Util", [{ name := "Util_Pos", usage := some "" }, { name := "Util_Area" }]⟩]
      enums := [⟨"E", [⟨"B", some "2"⟩, ⟨"A", none⟩, ⟨"B", some "2"⟩]⟩, ⟨"D", []⟩]
      globals := [{ name := "y" }, { name := "x", value := some "1" }] }
  have hd : d.Canonical := by decide
  have hreverse : ¬ Canonical { d with categories := d.categories.reverse } := by decide
  obtain ⟨hself, hempty⟩ := (merge_identities d).2 hd
  exact ⟨d, rfl, hd, (merge_identities d).1.2 hd, hself, hempty,
    fun h => hreverse ((merge_identities _).1.1 h)⟩

end Document

end ScriptDoc
