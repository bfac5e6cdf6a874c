import Mathlib.Data.List.Induction
import ScriptDoc.Proofs.Document.Associativity
import ScriptDoc.Proofs.Document.Identities

/-!
# Merging a document again

A document that has been merged in can be merged in again without any effect, even if it has several
records of one name.  Such records are merged one after the other, and the second time they pass
through the same sequence of changes: it ends where the first one did.

* `MergeRule.Settles`: a sequence of merges changes nothing when it is run on its own result;
* `settles_of_assoc`: so it is where merging is associative, as for functions and globals;
* `EnumRecord.mergeRule_settles`: so it is for enums, although an enum that has the same members in
  another order keeps its own order;
* `Document.merge_merge_self`.
-/

namespace ScriptDoc

/-! ### Lists of records -/

theorem foldl_merge_some {α : Type} (merge : α → α → α) (rs : List α) (r : α) :
    rs.foldl (fun o s => Option.merge merge o (some s)) (some r) = some (rs.foldl merge r) := by
  induction rs generalizing r with
  | nil => rfl
  | cons s rs ih => rw [List.foldl_cons, List.foldl_cons, Option.merge_some_some, ih]

section Named

variable {α : Type} [Named α] {rule : MergeRule α}

/-- A sequence of records of one name changes nothing when it is merged in again. -/
def MergeRule.Settles (rule : MergeRule α) : Prop :=
  ∀ (rs : List α) (r : α), (∀ s ∈ rs, Named.name s = Named.name r) →
    rs.foldl rule.merge (rs.foldl rule.merge r) = rs.foldl rule.merge r

theorem MergeRule.settles_of_assoc
    (hassoc : ∀ a b c, rule.merge (rule.merge a b) c = rule.merge a (rule.merge b c))
    (hself : ∀ a, rule.merge a a = a) : rule.Settles := by
  have : Std.Associative rule.merge := ⟨hassoc⟩
  intro rs r _
  cases rs with
  | nil => rfl
  | cons s rs =>
    -- all of the sequence acts as one record
    have hone (a : α) :
        (s :: rs).foldl rule.merge a = rule.merge a (rs.foldl rule.merge s) := by
      rw [List.foldl_cons, List.foldl_assoc]
    rw [hone, hone, hassoc, hself]

/-- The same if there need not be a record to begin with. -/
theorem MergeRule.Settles.foldl_option (hs : rule.Settles) (hself : ∀ a, rule.merge a a = a)
    {x : String} {rs : List α} (hrs : ∀ s ∈ rs, Named.name s = x) {o : Option α}
    (ho : ∀ r, o = some r → Named.name r = x) :
    rs.foldl (fun o s => Option.merge rule.merge o (some s))
        (rs.foldl (fun o s => Option.merge rule.merge o (some s)) o) =
      rs.foldl (fun o s => Option.merge rule.merge o (some s)) o := by
  cases o with
  | some r =>
    have hname := ho r rfl
    rw [foldl_merge_some, foldl_merge_some, hs rs r fun s h => (hrs s h).trans hname.symm]
  | none =>
    cases rs with
    | nil => rfl
    | cons s rs =>
      -- the first record may as well be merged into itself
      have hfirst : (s :: rs).foldl (fun o s => Option.merge rule.merge o (some s)) none =
          some ((s :: rs).foldl rule.merge s) := by
        rw [List.foldl_cons, Option.merge_none_left, foldl_merge_some, List.foldl_cons, hself]
      have hname := hrs s List.mem_cons_self
      rw [hfirst, foldl_merge_some, hs (s :: rs) s fun t h => (hrs t h).trans hname.symm]

/-- Records that came out of a reconciliation, in whatever order, are kept when the same records are
brought in again. -/
theorem reconcile_eq_left (hl : rule.Lawful) (hself : ∀ a, rule.merge a a = a)
    (hs : rule.Settles) {base incoming known : List α} (hd : (names known).Nodup)
    (hfind : ∀ x, findNamed? x known = findNamed? x (reconcile rule base incoming).1) :
    (reconcile rule known incoming).1 = known := by
  have hsub : names incoming ⊆ names known := by
    intro x hx
    rw [← isSome_findNamed?, hfind, isSome_findNamed?, names_reconcile hl, List.mem_eraseDups]
    exact List.mem_append_right _ hx
  refine eq_of_names_eq ?_ (nodup_names_reconcile hl known incoming) fun x => ?_
  · rw [names_reconcile hl, eraseDups_append_of_subset hsub, eraseDups_eq_self hd]
  · rw [findNamed?_reconcile_foldl hl, lastNamed_eq_self hd, hfind, findNamed?_reconcile_foldl hl]
    refine hs.foldl_option hself (fun s h => ?_) fun r h => name_of_findNamed? h
    simpa using (List.mem_filter.1 h).2

end Named

/-! ### Enums -/

namespace EnumRecord

theorem same_iff_alike {a b : EnumRecord} : a.same b = true ↔ a.Alike b := by
  rw [EnumRecord.same, Bool.and_eq_true, beq_iff_eq, List.isPerm_iff, EnumRecord.Alike]

theorem Alike.symm {a b : EnumRecord} (h : a.Alike b) : b.Alike a := ⟨h.1.symm, h.2.symm⟩

theorem Alike.trans {a b c : EnumRecord} (hab : a.Alike b) (hbc : b.Alike c) : a.Alike c :=
  ⟨hab.1.trans hbc.1, hab.2.trans hbc.2⟩

theorem merge_of_alike {a b : EnumRecord} (h : a.Alike b) : a.merge b = a :=
  if_pos (same_iff_alike.2 h)

theorem merge_of_members_eq_nil {a b : EnumRecord} (h : b.members = []) : a.merge b = a := by
  unfold EnumRecord.merge
  split
  · rfl
  · rw [h, Patch.list_nil]

/-- An enum with other members replaces one of its name. -/
theorem merge_of_not_alike {a b : EnumRecord} (hname : b.name = a.name) (hb : b.members ≠ [])
    (h : ¬ a.Alike b) : a.merge b = b := by
  have hlist : Patch.list a.members b.members = b.members := by
    cases hm : b.members with
    | nil => exact absurd hm hb
    | cons m ms => rfl
  rw [EnumRecord.merge, if_neg fun hs => h (same_iff_alike.1 hs), hlist, ← hname]

theorem merge_alike {a b : EnumRecord} (hname : b.name = a.name) (hb : b.members ≠ []) :
    (a.merge b).Alike b := by
  by_cases h : a.Alike b
  · rw [merge_of_alike h]
    exact h
  · rw [merge_of_not_alike hname hb h]
    exact .refl b

theorem name_foldl_merge (rs : List EnumRecord) (a : EnumRecord) :
    (rs.foldl EnumRecord.merge a).name = a.name :=
  foldl_merge_kept merge_name a rs

/-- A sequence of merges either does nothing at all, or its outcome does not depend on where it
starts, the order of members apart. -/
theorem foldl_merge_alike {x : String} {rs : List EnumRecord} (hrs : ∀ s ∈ rs, s.name = x) :
    (∀ a, rs.foldl EnumRecord.merge a = a) ∨
      ∀ a b : EnumRecord, a.name = x → b.name = x →
        (rs.foldl EnumRecord.merge a).Alike (rs.foldl EnumRecord.merge b) := by
  -- the last enum with members decides, so the induction is from the end
  induction rs using List.reverseRecOn with
  | nil => exact .inl fun a => rfl
  | append_singleton rs s ih =>
    have ih := ih fun t h => hrs t (List.mem_append_left _ h)
    simp only [List.foldl_append, List.foldl_cons, List.foldl_nil]
    by_cases hs : s.members = []
    · simp only [merge_of_members_eq_nil hs]
      exact ih
    · have hname : s.name = x := hrs s (List.mem_append_right _ List.mem_cons_self)
      refine .inr fun a b ha hb => ?_
      have hab (c : EnumRecord) (hc : c.name = x) : ((rs.foldl EnumRecord.merge c).merge s).Alike s :=
        merge_alike (by rw [name_foldl_merge, hname, hc]) hs
      exact (hab a ha).trans (hab b hb).symm

theorem mergeRule_settles : EnumRecord.mergeRule.Settles := by
  intro rs r
  show (∀ s ∈ rs, s.name = r.name) → rs.foldl EnumRecord.merge (rs.foldl EnumRecord.merge r) =
    rs.foldl EnumRecord.merge r
  intro hrs
  induction rs using List.reverseRecOn with
  | nil => rfl
  | append_singleton rs s ih =>
    have hs : s.name = r.name := hrs s (List.mem_append_right _ List.mem_cons_self)
    have hrs : ∀ t ∈ rs, t.name = r.name := fun t h => hrs t (List.mem_append_left _ h)
    simp only [List.foldl_append, List.foldl_cons, List.foldl_nil]
    by_cases hkept : s.members = [] ∨ (rs.foldl EnumRecord.merge r).Alike s
    · have hmerge : (rs.foldl EnumRecord.merge r).merge s = rs.foldl EnumRecord.merge r :=
        hkept.elim merge_of_members_eq_nil merge_of_alike
      rw [hmerge, ih hrs, hmerge]
    · obtain ⟨hne, halike⟩ := not_or.1 hkept
      have hname : s.name = (rs.foldl EnumRecord.merge r).name := by rw [name_foldl_merge, hs]
      rw [merge_of_not_alike hname hne halike]
      rcases foldl_merge_alike hrs with hid | hany
      · rw [hid, merge_of_alike (.refl s)]
      · -- the records before `s` lead away from `s` the second time as they did the first time
        have haway : ¬ (rs.foldl EnumRecord.merge s).Alike s :=
          fun h => halike ((hany r s rfl hs).trans h)
        exact merge_of_not_alike (name_foldl_merge rs s).symm hne haway

end EnumRecord

/-! ### Documents -/

namespace Document

/-- **Merging the same document again changes nothing**, also if names are repeated in it. -/
theorem merge_merge_self (a b : Document) : (a.merge b).merge b = a.merge b := by
  have hc := merge_canonical a b
  have hfunctions (f : FunctionRecord) : f.merge f = f := if_pos rfl
  have hglobals (g : GlobalRecord) : g.merge g = g := if_pos rfl
  refine hc.merge_eq ?_ ?_ ?_
  · exact reconcile_eq_left FunctionRecord.mergeRule_lawful hfunctions
      (MergeRule.settles_of_assoc FunctionRecord.merge_merge hfunctions) hc.functions
      (findNamed?_perm (functions_categorize_perm _) hc.functions)
  · exact reconcile_eq_left EnumRecord.mergeRule_lawful
      (fun e => EnumRecord.merge_of_alike (.refl e)) EnumRecord.mergeRule_settles hc.enums
      fun _ => rfl
  · exact reconcile_eq_left GlobalRecord.mergeRule_lawful hglobals
      (MergeRule.settles_of_assoc GlobalRecord.merge_merge hglobals) hc.globals fun _ => rfl

/-- Both times the enum loses its members on the way, and takes them back in the order of the last
record. -/
example :
    let a : Document := { enums := [⟨"E", [⟨"B", none⟩, ⟨"A", none⟩]⟩] }
    let b : Document := { enums := [⟨"E", [⟨"C", none⟩]⟩, ⟨"E", [⟨"A", none⟩, ⟨"B", none⟩]⟩] }
    (a.merge b).enums = [⟨"E", [⟨"A", none⟩, ⟨"B", none⟩]⟩] ∧
      ((a.merge b).merge b).enums = (a.merge b).enums := by
  decide

end Document

end ScriptDoc
