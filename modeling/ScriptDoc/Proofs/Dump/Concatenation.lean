import ScriptDoc.Proofs.Dump.Preservation

/-!
# Dumps one after the other

Two dumps can be read as one, or each on its own and then merged.  A dump that can be read on its own
opens with a marker, blank lines apart, so the section that the first one ends in does not matter to
the second, and the lines within sections are those of both.  What is kept of repeated names is then
what a merge keeps.

* `Dump.contentsFrom_append`: the lines within sections;
* `Dump.functions_append`, `Dump.globals_append`: both ways give the same functions and globals;
* `Document.enumMembers`, the members that a document has of an enum;
* `Dump.parse_append`.
-/

namespace ScriptDoc

open ScriptDoc.Text

/-- The members that a document has of an enum. -/
def Document.enumMembers (d : Document) (x : String) : List EnumMember :=
  (findNamed? x d.enums).elim [] (·.members)

namespace Dump

/-! ### Lines within sections -/

section Lines

variable {current : Option Section} {number : Nat} {raw : String} {rest : List String}

theorem contentsFrom_of_blank (h : (trimmed (chomp raw)).isEmpty = true) :
    contentsFrom current number (raw :: rest) = contentsFrom current (number + 1) rest := by
  rw [contentsFrom.eq_def]
  exact if_pos h

theorem contentsFrom_of_marker {s : Section} (h : ¬ (trimmed (chomp raw)).isEmpty = true)
    (hm : marker? (trimmed (chomp raw)) = some s) :
    contentsFrom current number (raw :: rest) = contentsFrom (some s) (number + 1) rest := by
  rw [contentsFrom.eq_def]
  refine (if_neg h).trans ?_
  rw [hm]

theorem contentsFrom_none_of_text (h : ¬ (trimmed (chomp raw)).isEmpty = true)
    (hm : marker? (trimmed (chomp raw)) = none) :
    contentsFrom none number (raw :: rest) = .error number := by
  rw [contentsFrom.eq_def]
  refine (if_neg h).trans ?_
  rw [hm]

theorem contentsFrom_some_of_text {s : Section} (h : ¬ (trimmed (chomp raw)).isEmpty = true)
    (hm : marker? (trimmed (chomp raw)) = none) :
    contentsFrom (some s) number (raw :: rest) =
      (contentsFrom (some s) (number + 1) rest).map (⟨s, chomp raw⟩ :: ·) := by
  rw [contentsFrom.eq_def]
  refine (if_neg h).trans ?_
  rw [hm]

end Lines

/-- Lines that can be read while no section is open are read alike in any section and at any
place. -/
theorem contentsFrom_eq_ok {current other : Option Section} (hc : current = none ∨ current = other)
    {number : Nat} {lines : List String} {ls : List Line}
    (h : contentsFrom current number lines = .ok ls) (start : Nat) :
    contentsFrom other start lines = .ok ls := by
  induction lines generalizing current other number start ls with
  | nil => exact h
  | cons raw rest ih =>
    by_cases hblank : (trimmed (chomp raw)).isEmpty = true
    · rw [contentsFrom_of_blank hblank] at h ⊢
      exact ih hc h (start + 1)
    · cases hm : marker? (trimmed (chomp raw)) with
      | some s =>
        -- from its first marker on, a dump does not look back
        rw [contentsFrom_of_marker hblank hm] at h ⊢
        exact ih (.inr rfl) h (start + 1)
      | none =>
        cases current with
        | none => rw [contentsFrom_none_of_text hblank hm] at h; cases h
        | some s =>
          obtain rfl : some s = other := hc.resolve_left (Option.some_ne_none s)
          rw [contentsFrom_some_of_text hblank hm] at h ⊢
          cases hrest : contentsFrom (some s) (number + 1) rest with
          | error n => rw [hrest] at h; cases h
          | ok l =>
            rw [hrest] at h
            rw [ih (.inr rfl) hrest (start + 1)]
            exact h

theorem contentsFrom_append {current : Option Section} {number : Nat} {as bs : List String}
    {la lb : List Line} (ha : contentsFrom current number as = .ok la)
    (hb : contents bs = .ok lb) : contentsFrom current number (as ++ bs) = .ok (la ++ lb) := by
  induction as generalizing current number la with
  | nil =>
    cases ha
    exact contentsFrom_eq_ok (.inl rfl) hb number
  | cons raw rest ih =>
    rw [List.cons_append]
    by_cases hblank : (trimmed (chomp raw)).isEmpty = true
    · rw [contentsFrom_of_blank hblank] at ha ⊢
      exact ih ha
    · cases hm : marker? (trimmed (chomp raw)) with
      | some s =>
        rw [contentsFrom_of_marker hblank hm] at ha ⊢
        exact ih ha
      | none =>
        cases current with
        | none => rw [contentsFrom_none_of_text hblank hm] at ha; cases ha
        | some s =>
          rw [contentsFrom_some_of_text hblank hm] at ha ⊢
          cases hrest : contentsFrom (some s) (number + 1) rest with
          | error n => rw [hrest] at ha; cases ha
          | ok l =>
            rw [hrest] at ha
            cases ha
            rw [ih hrest]
            rfl

theorem linesOf_append (s : Section) (la lb : List Line) :
    linesOf s (la ++ lb) = linesOf s la ++ linesOf s lb := by
  rw [linesOf, List.filter_append, List.map_append, linesOf, linesOf]

/-! ### Functions and globals -/

/-- The functions of both dumps are those of a merge, in the same order. -/
theorem functions_append (la lb : List Line) :
    functions (la ++ lb) =
      (reconcile FunctionRecord.mergeRule (functions la) (functions lb)).1 := by
  have hl := FunctionRecord.mergeRule_lawful
  have hnodup (ls : List Line) : (names (functions ls)).Nodup := nodup_names_firstNamed _
  refine eq_of_names_eq ?_ (hnodup _) fun x => ?_
  · rw [names_reconcile hl, functions, functions, functions, linesOf_append, List.map_append,
      names_firstNamed, names_firstNamed, names_firstNamed, eraseDups_eraseDups_append,
      eraseDups_append_eraseDups, names_append]
  · have hfind : findNamed? x (functions (la ++ lb)) =
        (findNamed? x (functions la)).or (findNamed? x (functions lb)) := by
      simp only [functions, findNamed?_firstNamed, linesOf_append, List.map_append,
        findNamed?_append]
    rw [findNamed?_reconcile hl (hnodup la) (hnodup lb), hfind]
    cases ha : findNamed? x (functions la) with
    | none => rw [Option.merge_none_left, Option.none_or]
    | some f =>
      cases hb : findNamed? x (functions lb) with
      | none => rfl
      | some g =>
        have hg := eq_of_mem_functions (mem_of_findNamed? hb)
        rw [Option.merge_some_some, hg]
        exact congrArg some (FunctionRecord.merge_bare f g.name).symm

theorem globals_append (la lb : List Line) :
    globals (la ++ lb) = (reconcile GlobalRecord.mergeRule (globals la) (globals lb)).1 := by
  have hl := GlobalRecord.mergeRule_lawful
  have hnodup (ls : List Line) : (names (globals ls)).Nodup := nodup_names_lastNamed _
  refine eq_of_names_eq ?_ (hnodup _) fun x => ?_
  · rw [names_reconcile hl, globals, globals, globals, linesOf_append, List.filterMap_append,
      names_lastNamed, names_lastNamed, names_lastNamed, eraseDups_eraseDups_append,
      eraseDups_append_eraseDups, names_append]
  · have hfind : findNamed? x (globals (la ++ lb)) =
        (findNamed? x (globals lb)).or (findNamed? x (globals la)) := by
      simp only [globals, findNamed?_lastNamed, linesOf_append, List.filterMap_append,
        List.filter_append, List.getLast?_append]
    rw [findNamed?_reconcile hl (hnodup la) (hnodup lb), hfind]
    cases hb : findNamed? x (globals lb) with
    | none => rw [Option.merge_none_right, Option.none_or]
    | some g =>
      cases ha : findNamed? x (globals la) with
      | none => rfl
      | some f =>
        -- the second global has a value and nothing else, and so had the first
        obtain ⟨v, hf⟩ := eq_of_mem_globals (mem_of_findNamed? ha)
        obtain ⟨w, hg⟩ := eq_of_mem_globals (mem_of_findNamed? hb)
        have hname : f.name = g.name := (name_of_findNamed? ha).trans (name_of_findNamed? hb).symm
        rw [Option.merge_some_some, Option.some_or, hg]
        refine congrArg some ?_
        show _ = f.merge _
        rw [GlobalRecord.merge_value, hf, hname]

/-! ### Enums -/

/-- The members that belong to an enum are those that the entries give it, none if it is not among
them. -/
theorem enumMembers_document (dedupe : Bool) (ls : List Line) (x : String) :
    (document dedupe ls).enumMembers x =
      EnumRecord.membersFor dedupe ((encodedMembers ls).map EncodedMember.placed) x := by
  show (findNamed? x (EnumRecord.group dedupe _)).elim [] (·.members) = _
  generalize (encodedMembers ls).map EncodedMember.placed = entries
  have hnames := EnumRecord.names_group dedupe entries
  by_cases hx : x ∈ entries.map Prod.fst
  · have hmem : (⟨x, EnumRecord.membersFor dedupe entries x⟩ : EnumRecord) ∈
        EnumRecord.group dedupe entries :=
      List.mem_map_of_mem (List.mem_eraseDups.2 hx)
    have hfind := findNamed?_of_mem (hnames ▸ nodup_eraseDups _) hmem
    rw [show findNamed? x _ = _ from hfind, Option.elim_some]
  · have hnone : findNamed? x (EnumRecord.group dedupe entries) = none := by
      rw [findNamed?_eq_none, hnames, List.mem_eraseDups]
      exact hx
    have hfilter : entries.filter (·.1 == x) = [] := by
      refine List.filter_eq_nil_iff.2 fun entry h he => hx ?_
      exact List.mem_map.2 ⟨entry, h, beq_iff_eq.1 he⟩
    rw [hnone, Option.elim_none, EnumRecord.membersFor, hfilter]
    rfl

theorem membersFor_true (entries : List (String × EnumMember)) (x : String) :
    EnumRecord.membersFor true entries x = (entries.filter (·.1 == x)).map (·.2) := by
  unfold EnumRecord.membersFor
  cases (entries.filter (·.1 == x)).map (·.2) with
  | nil => rfl
  | cons m ms => rfl

theorem encodedMembers_append (la lb : List Line) :
    encodedMembers (la ++ lb) = encodedMembers la ++ encodedMembers lb := by
  rw [encodedMembers, linesOf_append, List.filterMap_append, encodedMembers, encodedMembers]

theorem names_enums_append (dedupe : Bool) (la lb : List Line) :
    names (document dedupe (la ++ lb)).enums =
      names (document dedupe la).enums ++
        (names (document dedupe lb).enums).filter (· ∉ names (document dedupe la).enums) := by
  show names (EnumRecord.group _ _) = names (EnumRecord.group _ _) ++
    (names (EnumRecord.group _ _)).filter (· ∉ names (EnumRecord.group _ _))
  rw [EnumRecord.names_group, EnumRecord.names_group, EnumRecord.names_group,
    encodedMembers_append, List.map_append, List.map_append, eraseDups_append_eq]
  simp only [List.mem_eraseDups]

theorem members_enums_append (la lb : List Line) {e : EnumRecord}
    (he : e ∈ (document true (la ++ lb)).enums) :
    e.members = (document true la).enumMembers e.name ++ (document true lb).enumMembers e.name := by
  have hfind := findNamed?_of_mem (document_canonical true (la ++ lb)).enums he
  have hmembers : (document true (la ++ lb)).enumMembers e.name = e.members := by
    rw [Document.enumMembers, show findNamed? e.name _ = _ from hfind, Option.elim_some]
  rw [← hmembers, enumMembers_document, enumMembers_document, enumMembers_document,
    membersFor_true, membersFor_true, membersFor_true, encodedMembers_append, List.map_append,
    List.filter_append, List.map_append]

/-! ### Documents -/

theorem categories_append (dedupe : Bool) (la lb : List Line) :
    (document dedupe (la ++ lb)).categories =
      ((document dedupe la).merge (document dedupe lb)).categories := by
  show categorize (functions (la ++ lb)) = categorize _
  rw [functions_append]
  -- the merge has the functions of each dump in the order of their categories
  refine categorize_congr fun key => ?_
  exact members_reconcile_congr (nodup_names_firstNamed _) (nodup_names_firstNamed _)
    (fun key => (members_functions_categorize _ key).symm)
    (fun key => (members_functions_categorize _ key).symm) key

/-- **Two dumps read as one are two dumps read and merged**, except that the members of an enum add
up. -/
theorem parse_append {dedupe : Bool} {as bs : List String} {a b : Document}
    {na nb : List Notice} (ha : parse dedupe as = .ok (a, na)) (hb : parse dedupe bs = .ok (b, nb)) :
    ∃ d notices, parse dedupe (as ++ bs) = .ok (d, notices) ∧
      d.categories = (a.merge b).categories ∧ d.globals = (a.merge b).globals ∧
      names d.enums = names a.enums ++ (names b.enums).filter (· ∉ names a.enums) ∧
      (dedupe = true →
        ∀ e ∈ d.enums, e.members = a.enumMembers e.name ++ b.enumMembers e.name) := by
  obtain ⟨la, hla, rfl, -⟩ := parse_eq_ok ha
  obtain ⟨lb, hlb, rfl, -⟩ := parse_eq_ok hb
  have hcontents : contents (as ++ bs) = .ok (la ++ lb) := contentsFrom_append hla hlb
  refine ⟨document dedupe (la ++ lb), [notice (la ++ lb)], by rw [parse, hcontents]; rfl,
    categories_append dedupe la lb, globals_append la lb, names_enums_append dedupe la lb, ?_⟩
  rintro rfl e he
  exact members_enums_append la lb he

/-- Names that are repeated, and an enum in both dumps. -/
theorem parse_append_repeated :
    let as := ["[ScarDoc:Functions]", "A_x", "A_y", "[ScarDoc:Globals]", "Size=1", "Time=0",
      "[ScarDoc:Unknowns]", "P=E(1)"]
    let bs := ["", "[ScarDoc:Globals]", "Size=2", "[ScarDoc:Unknowns]", "Q[p]=E(2)", "R=F(1)",
      "[ScarDoc:Functions]", "A_y", "A_z"]
    ∃ a b na nb, parse true as = .ok (a, na) ∧ parse true bs = .ok (b, nb) ∧
      ∃ d notices, parse true (as ++ bs) = .ok (d, notices) ∧
        d.categories = (a.merge b).categories ∧ d.globals = (a.merge b).globals ∧
        names d.enums = ["E", "F"] ∧
        ∀ e ∈ d.enums, e.members = a.enumMembers e.name ++ b.enumMembers e.name := by
  let a : Document :=
    { categories := [⟨"A", [{ name := "A_x" }, { name := "A_y" }]⟩]
      enums := [⟨"E", [⟨"P", some "1"⟩]⟩]
      globals := [{ name := "Size", value := some "1" }, { name := "Time", value := some "0" }] }
  let b : Document :=
    { categories := [⟨"A", [{ name := "A_y" }, { name := "A_z" }]⟩]
      enums := [⟨"E", [⟨"Q", some "2"⟩]⟩, ⟨"F", [⟨"R", some "1"⟩]⟩]
      globals := [{ name := "Size", value := some "2" }] }
  intro as bs
  have ha : parse true as = .ok (a, [.imported 2 2 1]) := by decide +kernel
  have hb : parse true bs = .ok (b, [.imported 2 1 2]) := by decide +kernel
  obtain ⟨d, notices, hd, hcategories, hglobals, hnames, hmembers⟩ := parse_append ha hb
  exact ⟨a, b, _, _, ha, hb, d, notices, hd, hcategories, hglobals, hnames.trans (by decide),
    hmembers rfl⟩

end Dump

end ScriptDoc
