import ScriptDoc.Proofs.Document.History

/-!
# Merging is associative

Three documents can be merged from the left or from the right.  The names come out in the same order
(`names_reconcile`), and the record of a name is a merge of the same three records
(`findNamed?_reconcile`), so lists of records agree as soon as the merge of three records is
associative.  For functions and globals it is; for enums it is up to the order of members, because
an enum that has the same members in another order is left alone.

Functions are regrouped after every merge.  That does not matter, because the regrouping keeps the
order within each category, and a merge never moves a function to another category
(`members_reconcile_congr`).

* `EnumRecord.Alike`, equality of enums up to the order of members;
* `Document.merge_assoc`.
-/

namespace ScriptDoc

/-! ### Lists of records -/

section Named

variable {α : Type} [Named α] {rule : MergeRule α}

/-- Reconciliation is associative up to a relation up to which merging is. -/
theorem reconcile_assoc (hl : rule.Lawful) {E : α → α → Prop} (hrefl : ∀ r, E r r)
    (hassoc : ∀ r s t, E (rule.merge (rule.merge r s) t) (rule.merge r (rule.merge s t)))
    {as bs cs : List α} (ha : (names as).Nodup) (hb : (names bs).Nodup) (hc : (names cs).Nodup) :
    List.Forall₂ E (reconcile rule (reconcile rule as bs).1 cs).1
      (reconcile rule as (reconcile rule bs cs).1).1 := by
  have hab := nodup_names_reconcile hl as bs
  have hbc := nodup_names_reconcile hl bs cs
  refine forall₂_of_names_eq ?_ (nodup_names_reconcile hl _ cs) ?_
  · simp only [names_reconcile hl]
    rw [eraseDups_eraseDups_append, eraseDups_append_eraseDups, List.append_assoc]
  · intro x r s hr hs
    rw [findNamed?_reconcile hl hab hc, findNamed?_reconcile hl ha hb] at hr
    rw [findNamed?_reconcile hl ha hbc, findNamed?_reconcile hl hb hc] at hs
    generalize findNamed? x as = a at hr hs
    generalize findNamed? x bs = b at hr hs
    generalize findNamed? x cs = c at hr hs
    cases a with
    | none =>
      -- both sides merge the same two records
      rw [Option.merge_none_left] at hr hs
      cases hr.symm.trans hs
      exact hrefl r
    | some a =>
      cases b with
      | none =>
        rw [Option.merge_none_left] at hs
        rw [Option.merge_none_right] at hr
        cases hr.symm.trans hs
        exact hrefl r
      | some b =>
        cases c with
        | none =>
          rw [Option.merge_none_right] at hr hs
          cases hr.symm.trans hs
          exact hrefl r
        | some c =>
          simp only [Option.merge_some_some, Option.some.injEq] at hr hs
          subst hr hs
          exact hassoc a b c

end Named

/-! ### Functions in their categories -/

theorem FunctionRecord.categoryKey_merge (f g : FunctionRecord) :
    (f.merge g).categoryKey = f.categoryKey := by
  rw [FunctionRecord.merge_eq]
  rfl

theorem FunctionRecord.categoryKey_updated (fs : List FunctionRecord) (f : FunctionRecord) :
    (FunctionRecord.mergeRule.updated fs f).categoryKey = f.categoryKey := by
  unfold MergeRule.updated
  cases findNamed? (Named.name f) fs with
  | none => rfl
  | some g => exact FunctionRecord.categoryKey_merge f g

theorem members_map_updated (fs gs : List FunctionRecord) (key : String) :
    members (fs.map (FunctionRecord.mergeRule.updated gs)) key =
      (members fs key).map (FunctionRecord.mergeRule.updated gs) := by
  rw [members, List.filter_map, members]
  congr 2
  funext f
  rw [Function.comp_apply, FunctionRecord.categoryKey_updated]

/-- Within a category, what a merge gives depends on the members of that category alone. -/
theorem members_reconcile_congr {base base' incoming incoming' : List FunctionRecord}
    (hd : (names base).Nodup) (hi : (names incoming).Nodup)
    (hbase : ∀ key, members base key = members base' key)
    (hincoming : ∀ key, members incoming key = members incoming' key) (key : String) :
    members (reconcile FunctionRecord.mergeRule base incoming).1 key =
      members (reconcile FunctionRecord.mergeRule base' incoming').1 key := by
  have hl := FunctionRecord.mergeRule_lawful
  have pb : (names base).Perm (names base') := (perm_of_members_eq hbase).map _
  have pi := perm_of_members_eq hincoming
  have hd' := pb.nodup_iff.1 hd
  have hi' : (names incoming').Nodup := (pi.map Named.name).nodup_iff.1 hi
  have hupdated : FunctionRecord.mergeRule.updated incoming =
      FunctionRecord.mergeRule.updated incoming' := by
    funext f
    rw [MergeRule.updated, MergeRule.updated, findNamed?_perm pi hi]
  have hnew : members (incoming.filter fun f => Named.name f ∉ names base) key =
      members (incoming'.filter fun f => Named.name f ∉ names base') key := by
    rw [members_filter, members_filter, hincoming]
    exact List.filter_congr fun f _ => by simp only [pb.mem_iff]
  rw [reconcile_eq hl hd hi, reconcile_eq hl hd' hi', members_append, members_append,
    members_map_updated, members_map_updated, hbase, hupdated, hnew]

/-! ### Enums -/

/-- The same name and the same members, each as often, in any order. -/
def EnumRecord.Alike (a b : EnumRecord) : Prop := a.name = b.name ∧ a.members.Perm b.members

theorem EnumRecord.Alike.refl (e : EnumRecord) : e.Alike e := ⟨rfl, .refl _⟩

theorem Patch.list_perm {β : Type} {l l' m m' : List β} (hl : l.Perm l') (hm : m.Perm m') :
    (Patch.list l m).Perm (Patch.list l' m') := by
  cases m with
  | nil => rw [hm.nil_eq.symm]; exact hl
  | cons a m =>
    cases m' with
    | nil => exact absurd hm.eq_nil (List.cons_ne_nil a m)
    | cons b m' => exact hm

theorem EnumRecord.merge_assoc_alike (a b c : EnumRecord) :
    EnumRecord.Alike ((a.merge b).merge c) (a.merge (b.merge c)) := by
  refine ⟨by rw [merge_name, merge_name, merge_name], ?_⟩
  calc ((a.merge b).merge c).members
      _ |>.Perm (Patch.list (a.merge b).members c.members) := merge_members_perm _ c
      _ |>.Perm (Patch.list (Patch.list a.members b.members) c.members) :=
        Patch.list_perm (merge_members_perm a b) (.refl _)
      _ = Patch.list a.members (Patch.list b.members c.members) := Patch.list_assoc ..
      _ |>.Perm (Patch.list a.members (b.merge c).members) :=
        Patch.list_perm (.refl _) (merge_members_perm b c).symm
      _ |>.Perm (a.merge (b.merge c)).members := (merge_members_perm a _).symm

theorem FunctionRecord.merge_merge (a b c : FunctionRecord) :
    (a.merge b).merge c = a.merge (b.merge c) := by
  simp only [merge_eq, Patch.value_assoc, Patch.list_assoc]

theorem GlobalRecord.merge_merge (a b c : GlobalRecord) :
    (a.merge b).merge c = a.merge (b.merge c) := by
  simp only [merge_eq, Patch.value_assoc]

/-! ### Documents -/

/-- After a merge, each category has the functions that reconciliation gives, in their order. -/
theorem Document.members_merge (a b : Document) (key : String) :
    members (a.merge b).functions key =
      members (reconcile FunctionRecord.mergeRule a.functions b.functions).1 key :=
  members_functions_categorize _ key

/-- **Merging is associative**, up to the order of members of enums. -/
theorem Document.merge_assoc {a b c : Document} (ha : a.DistinctNames) (hb : b.DistinctNames)
    (hc : c.DistinctNames) :
    ((a.merge b).merge c).categories = (a.merge (b.merge c)).categories ∧
      ((a.merge b).merge c).globals = (a.merge (b.merge c)).globals ∧
      List.Forall₂ EnumRecord.Alike ((a.merge b).merge c).enums (a.merge (b.merge c)).enums := by
  have hf := FunctionRecord.mergeRule_lawful
  refine ⟨categorize_congr fun key => ?_, ?_, ?_⟩
  · have hassoc := reconcile_assoc hf Eq.refl FunctionRecord.merge_merge ha.functions
      hb.functions hc.functions
    rw [List.forall₂_eq_eq_eq] at hassoc
    rw [members_reconcile_congr (merge_canonical a b).functions hc.functions (members_merge a b)
        (fun _ => rfl) key, hassoc,
      members_reconcile_congr ha.functions (merge_canonical b c).functions (fun _ => rfl)
        (members_merge b c) key]
  · have hassoc := reconcile_assoc GlobalRecord.mergeRule_lawful Eq.refl GlobalRecord.merge_merge
      ha.globals hb.globals hc.globals
    rwa [List.forall₂_eq_eq_eq] at hassoc
  · exact reconcile_assoc EnumRecord.mergeRule_lawful EnumRecord.Alike.refl
      EnumRecord.merge_assoc_alike ha.enums hb.enums hc.enums

/-- The order of members does depend on how three documents are merged. -/
theorem Document.merge_assoc_reordered :
    ∃ a b c : Document,
      ((a.merge b).merge c).enums ≠ (a.merge (b.merge c)).enums ∧
        ((a.merge b).merge c).categories = (a.merge (b.merge c)).categories ∧
        ((a.merge b).merge c).globals = (a.merge (b.merge c)).globals ∧
        List.Forall₂ EnumRecord.Alike ((a.merge b).merge c).enums (a.merge (b.merge c)).enums := by
  refine ⟨{ categories := [⟨"Flow", [{ name := "Run", groups := ["Flow"] }]⟩]
            enums := [⟨"E", [⟨"A", some "1"⟩, ⟨"B", some "2"⟩]⟩] },
    { categories := [⟨"Util", [{ name := "Util_Pos" }, { name := "Run", usage := some "Run()" }]⟩]
      enums := [⟨"E", [⟨"C", none⟩]⟩] },
    { categories := [⟨"", [{ name := "Stop" }]⟩]
      enums := [⟨"E", [⟨"B", some "2"⟩, ⟨"A", some "1"⟩]⟩] }, by decide, ?_⟩
  exact Document.merge_assoc (by decide) (by decide) (by decide)

end ScriptDoc
