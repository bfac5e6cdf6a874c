import ScriptDoc.Proofs.Document.Associativity
import ScriptDoc.Proofs.Document.Identities

/-!
# Documentation survives a dump

A dump knows functions by name only, and globals by name and value.  Merged into a document it can
therefore add functions, but not touch those that are there, and of a global it can change the value
alone.

* `Dump.eq_of_mem_functions`, `Dump.eq_of_mem_globals`: what the records of a dump look like;
* `FunctionRecord.merge_bare`: a function with nothing but a name changes nothing;
* `Document.functionsUnder`, the functions of one category of a document;
* `Document.merge_dump`.
-/

namespace ScriptDoc

/-! ### The records of a dump -/

namespace Dump

theorem parse_eq_ok {dedupe : Bool} {lines : List String} {d : Document} {notices : List Notice}
    (h : parse dedupe lines = .ok (d, notices)) :
    ∃ ls, contents lines = .ok ls ∧ d = document dedupe ls ∧ notices = [notice ls] := by
  unfold parse at h
  cases hc : contents lines with
  | error n => rw [hc] at h; cases h
  | ok ls =>
    rw [hc] at h
    cases h
    exact ⟨ls, rfl, rfl, rfl⟩

theorem eq_of_mem_functions {ls : List Line} {f : FunctionRecord} (h : f ∈ functions ls) :
    f = { name := f.name } := by
  obtain ⟨line, -, rfl⟩ := List.mem_map.1 (mem_of_mem_firstNamed h)
  rfl

theorem eq_of_mem_globals {ls : List Line} {g : GlobalRecord} (h : g ∈ globals ls) :
    ∃ text, g = { name := g.name, value := some text } := by
  obtain ⟨line, -, hline⟩ := List.mem_filterMap.1 (mem_of_mem_lastNamed h)
  unfold GlobalRecord.ofLine? at hline
  dsimp only at hline
  split at hline
  · cases hline
  · cases hline
    exact ⟨_, rfl⟩

theorem eq_of_mem_document_functions {dedupe : Bool} {ls : List Line} {f : FunctionRecord}
    (h : f ∈ (document dedupe ls).functions) : f = { name := f.name } :=
  eq_of_mem_functions ((functions_categorize_perm _).mem_iff.1 h)

end Dump

/-! ### Merging such records -/

/-- A function of which nothing but a name is known changes nothing. -/
theorem FunctionRecord.merge_bare (f : FunctionRecord) (x : String) : f.merge { name := x } = f := by
  rw [FunctionRecord.merge_eq]
  simp only [Patch.value_none, Patch.list_nil]

/-- A global of which nothing but a value is known changes the value alone. -/
theorem GlobalRecord.merge_value (g : GlobalRecord) (x text : String) :
    g.merge { name := x, value := some text } = { g with value := some text } := by
  rw [GlobalRecord.merge_eq]
  simp only [Patch.value_none, Patch.value_some]

theorem FunctionRecord.eq_map_names {fs : List FunctionRecord}
    (h : ∀ f ∈ fs, f = { name := f.name }) : fs = (names fs).map fun x => { name := x } := by
  rw [names, List.map_map]
  exact (List.map_id fs).symm.trans (List.map_congr_left h)

/-- Functions of which nothing but names are known are added behind the others. -/
theorem reconcile_bare {base incoming : List FunctionRecord} (hb : (names base).Nodup)
    (hi : (names incoming).Nodup) (hbare : ∀ f ∈ incoming, f = { name := f.name }) :
    (reconcile FunctionRecord.mergeRule base incoming).1 =
      base ++ ((names incoming).filter (· ∉ names base)).map fun x => { name := x } := by
  have hupdated : ∀ f ∈ base, FunctionRecord.mergeRule.updated incoming f = f := by
    intro f _
    unfold MergeRule.updated
    cases hfind : findNamed? (Named.name f) incoming with
    | none => rfl
    | some g =>
      rw [Option.elim_some, hbare g (mem_of_findNamed? hfind)]
      exact FunctionRecord.merge_bare f g.name
  have hnew : incoming.filter (fun f => Named.name f ∉ names base) =
      ((names incoming).filter (· ∉ names base)).map fun x => { name := x } := by
    have hmap : (names incoming).filter (· ∉ names base) =
        names (incoming.filter fun f => Named.name f ∉ names base) := List.filter_map
    rw [hmap]
    exact FunctionRecord.eq_map_names fun f hf => hbare f (List.mem_filter.1 hf).1
  rw [reconcile_eq FunctionRecord.mergeRule_lawful hb hi, hnew,
    (List.map_congr_left hupdated).trans (List.map_id base)]

/-! ### Documents -/

namespace Document

/-- The functions that a document has under the name of a category. -/
def functionsUnder (d : Document) (key : String) : List FunctionRecord :=
  (d.categories.filter (·.name = key)).flatMap (·.functions)

theorem Canonical.functionsUnder_eq {d : Document} (h : d.Canonical) (key : String) :
    d.functionsUnder key = members d.functions key := by
  have hkey := h.categoryKey_eq
  unfold functionsUnder Document.functions
  generalize d.categories = cs at hkey
  induction cs with
  | nil => rfl
  | cons c cs ih =>
    have hrest := ih fun e he => hkey e (List.mem_cons_of_mem c he)
    rw [List.flatMap_cons, members_append,
      members_of_forall_categoryKey (hkey c List.mem_cons_self), ← hrest]
    by_cases hc : c.name = key <;> simp [hc]

/-- **A dump does not damage a document.** Under each category the functions that were there stay as
they are, and those that only the dump names follow with nothing but their names.  A global takes the
value of the dump if the dump has one and else stays, as does an enum that the dump does not know. -/
theorem merge_dump {g d : Document} {dedupe : Bool} {lines : List String} {notices : List Notice}
    (hg : g.Canonical) (h : Dump.parse dedupe lines = .ok (d, notices)) :
    (∀ key, (g.merge d).functionsUnder key = g.functionsUnder key ++
      members (((names d.functions).filter (· ∉ names g.functions)).map fun x => { name := x })
        key) ∧
    (∀ r ∈ g.globals, findNamed? r.name (g.merge d).globals =
      some { r with value := (findNamed? r.name d.globals).elim r.value (·.value) }) ∧
    ∀ e ∈ g.enums, e.name ∉ names d.enums → findNamed? e.name (g.merge d).enums = some e := by
  have hd := Dump.parse_canonical h
  obtain ⟨ls, -, rfl, -⟩ := Dump.parse_eq_ok h
  refine ⟨fun key => ?_, fun r hr => ?_, fun e he hnot => ?_⟩
  · rw [(merge_canonical g _).functionsUnder_eq, members_merge,
      reconcile_bare hg.functions hd.functions fun f => Dump.eq_of_mem_document_functions,
      members_append, hg.functionsUnder_eq]
  · have hfind : findNamed? r.name g.globals = some r := findNamed?_of_mem hg.globals hr
    rw [findNamed?_merge_globals hg.toDistinctNames hd.toDistinctNames, hfind]
    cases hs : findNamed? r.name (Dump.document dedupe ls).globals with
    | none => rfl
    | some s =>
      obtain ⟨text, hvalue⟩ := Dump.eq_of_mem_globals (mem_of_findNamed? hs)
      rw [Option.merge_some_some, Option.elim_some, hvalue, GlobalRecord.merge_value]
  · have hfind : findNamed? e.name g.enums = some e := findNamed?_of_mem hg.enums he
    rw [findNamed?_merge_enums hg.toDistinctNames hd.toDistinctNames, hfind,
      findNamed?_eq_none.2 hnot, Option.merge_none_right]

/-- A dump with a function that is documented and one that is not. -/
theorem merge_dump_documented :
    ∃ (g d : Document) (notices : List Notice), g.Canonical ∧
      Dump.parse false ["[ScarDoc:Functions]", "Util_New", " Util_Pos", "[SCARDOC:GLOBALS]", "Size=2",
        "[scardoc:unknowns]", "A[x]=E(1)"] = .ok (d, notices) ∧
      (g.merge d).functionsUnder "Util" =
        [{ name := "Util_Pos", usage := some "Util_Pos()" }, { name := "Util_New" }] ∧
      findNamed? "Size" (g.merge d).globals =
        some { name := "Size", value := some "2", typeName := some "int" } ∧
      findNamed? "F" (g.merge d).enums = some ⟨"F", [⟨"B", none⟩]⟩ := by
  let g : Document :=
    { categories := [⟨"Util", [{ name := "Util_Pos", usage := some "Util_Pos()" }]⟩]
      enums := [⟨"F", [⟨"B", none⟩]⟩]
      globals := [{ name := "Size", typeName := some "int" }] }
  let d : Document :=
    { categories := [⟨"Util", [{ name := "Util_New" }, { name := "Util_Pos" }]⟩]
      enums := [⟨"E", [⟨"A", some "1"⟩, ⟨"A", some "1"⟩]⟩]
      globals := [{ name := "Size", value := some "2" }] }
  have hg : g.Canonical := by decide
  have hd : Dump.parse false ["[ScarDoc:Functions]", "Util_New", " Util_Pos", "[SCARDOC:GLOBALS]",
      "Size=2", "[scardoc:unknowns]", "A[x]=E(1)"] = .ok (d, [.imported 2 1 1]) := by
    decide +kernel
  obtain ⟨hfunctions, hglobals, henums⟩ := merge_dump hg hd
  refine ⟨g, d, _, hg, hd, (hfunctions "Util").trans (by decide), ?_, ?_⟩
  · exact hglobals _ List.mem_cons_self
  · exact henums _ List.mem_cons_self (by decide)

end Document

end ScriptDoc
