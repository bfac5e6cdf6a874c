import ScriptDoc.Proofs.Document.Repetition

/-!
# The order of members does not matter

Two documents are *alike* if they differ at most in the order of the members of their enums.  Merging
alike documents goes the same way: the same records are introduced, kept and merged, with the same
notices, and the results are alike.  This holds although an enum keeps its own order of members when it
meets one with the same members, so that the order which remains does depend on the documents.

* `Document.Alike`;
* `MergeRule.Respects`: a rule that makes no difference between related records;
* `reconcileStep_rel`, `reconcileFrom_rel`, `reconcile_rel`: one record, several, and two lists;
* `EnumRecord.mergeRule_respects`;
* `Document.merge_fold_of_alike`.
-/

namespace ScriptDoc

/-- The same document, the order of the members of enums apart. -/
structure Document.Alike (a b : Document) : Prop where
  categories : a.categories = b.categories
  enums : List.Forall₂ EnumRecord.Alike a.enums b.enums
  globals : a.globals = b.globals

/-! ### Lists of related records -/

section Named

variable {α : Type} [Named α] {rule : MergeRule α} {E : α → α → Prop}

/-- Related records have one name, compare in the same way, and stay related in a merge. -/
structure MergeRule.Respects (rule : MergeRule α) (E : α → α → Prop) : Prop where
  name_eq : ∀ {a a'}, E a a' → Named.name a = Named.name a'
  same_eq : ∀ {a a' b b'}, E a a' → E b b' → rule.same a b = rule.same a' b'
  merge : ∀ {a a' b b'}, E a a' → E b b' → E (rule.merge a b) (rule.merge a' b')

theorem findNamed?_rel (hname : ∀ {a a'}, E a a' → Named.name a = Named.name a') {rs ss : List α}
    (h : List.Forall₂ E rs ss) (x : String) : Option.Rel E (findNamed? x rs) (findNamed? x ss) := by
  induction h with
  | nil => exact .none
  | cons hrs _ ih =>
    rw [findNamed?_cons, findNamed?_cons, hname hrs]
    split
    · exact .some hrs
    · exact ih

theorem putNamed_rel (hname : ∀ {a a'}, E a a' → Named.name a = Named.name a') {rs ss : List α}
    (h : List.Forall₂ E rs ss) {r s : α} (hrs : E r s) :
    List.Forall₂ E (putNamed r rs) (putNamed s ss) := by
  induction h with
  | nil => exact .cons hrs .nil
  | cons hxy htail ih =>
    rw [putNamed, putNamed, hname hrs, hname hxy]
    split
    · exact .cons hrs htail
    · exact .cons hxy ih

theorem lastNamed_rel (hname : ∀ {a a'}, E a a' → Named.name a = Named.name a') {rs ss : List α}
    (h : List.Forall₂ E rs ss) : List.Forall₂ E (lastNamed rs) (lastNamed ss) :=
  List.rel_foldl (P := List.Forall₂ E) (R := E)
    (fun _ _ hknown _ _ hr => putNamed_rel hname hknown hr) .nil h

/-- One more record does the same to related records, with the same notices. -/
theorem reconcileStep_rel (hr : rule.Respects E) {known known' : List α} {r r' : α}
    (hknown : List.Forall₂ E known known') (hrr : E r r') :
    List.Forall₂ E (reconcileStep rule known r).1 (reconcileStep rule known' r').1 ∧
      (reconcileStep rule known r).2 = (reconcileStep rule known' r').2 := by
  have hname := hr.name_eq hrr
  have hfind := findNamed?_rel hr.name_eq hknown (Named.name r)
  unfold reconcileStep
  rw [← hname]
  revert hfind
  generalize findNamed? (Named.name r) known = o
  generalize findNamed? (Named.name r) known' = o'
  rintro (hxx | _)
  · dsimp only
    rw [hr.same_eq hxx hrr]
    split
    · exact ⟨hknown, rfl⟩
    · exact ⟨putNamed_rel hr.name_eq hknown (hr.merge hxx hrr), rfl⟩
  · exact ⟨List.rel_append hknown (.cons hrr .nil), rfl⟩

theorem reconcileFrom_rel (hr : rule.Respects E) {known known' rs rs' : List α}
    (hknown : List.Forall₂ E known known') (hrs : List.Forall₂ E rs rs') :
    List.Forall₂ E (reconcileFrom rule known rs).1 (reconcileFrom rule known' rs').1 ∧
      (reconcileFrom rule known rs).2 = (reconcileFrom rule known' rs').2 := by
  induction hrs generalizing known known' with
  | nil => exact ⟨hknown, rfl⟩
  | cons hrr _ ih =>
    obtain ⟨hstep, hnotices⟩ := reconcileStep_rel hr hknown hrr
    obtain ⟨hall, hmore⟩ := ih hstep
    exact ⟨hall, congrArg₂ (· ++ ·) hnotices hmore⟩

theorem reconcile_rel (hr : rule.Respects E) {base base' incoming incoming' : List α}
    (hbase : List.Forall₂ E base base') (hincoming : List.Forall₂ E incoming incoming') :
    List.Forall₂ E (reconcile rule base incoming).1 (reconcile rule base' incoming').1 ∧
      (reconcile rule base incoming).2 = (reconcile rule base' incoming').2 :=
  reconcileFrom_rel hr (lastNamed_rel hr.name_eq hbase) hincoming

end Named

/-! ### Enums -/

namespace EnumRecord

theorem same_congr {a a' b b' : EnumRecord} (ha : a.Alike a') (hb : b.Alike b') :
    a.same b = a'.same b' := by
  rw [Bool.eq_iff_iff, same_iff_alike, same_iff_alike]
  exact ⟨fun h => (ha.symm.trans h).trans hb, fun h => (ha.trans h).trans hb.symm⟩

theorem merge_congr {a a' b b' : EnumRecord} (ha : a.Alike a') (hb : b.Alike b') :
    (a.merge b).Alike (a'.merge b') := by
  refine ⟨by rw [merge_name, merge_name, ha.1], ?_⟩
  calc (a.merge b).members
      _ |>.Perm (Patch.list a.members b.members) := merge_members_perm a b
      _ |>.Perm (Patch.list a'.members b'.members) := Patch.list_perm ha.2 hb.2
      _ |>.Perm (a'.merge b').members := (merge_members_perm a' b').symm

theorem mergeRule_respects : EnumRecord.mergeRule.Respects EnumRecord.Alike where
  name_eq h := h.1
  same_eq := same_congr
  merge := merge_congr

end EnumRecord

/-! ### Documents -/

namespace Document

theorem Alike.functions {a b : Document} (h : a.Alike b) : a.functions = b.functions := by
  rw [Document.functions, h.categories, Document.functions]

theorem mergeLogged_alike {base base' incoming incoming' : Document} (hb : base.Alike base')
    (hi : incoming.Alike incoming') :
    (mergeLogged base incoming).1.Alike (mergeLogged base' incoming').1 ∧
      (mergeLogged base incoming).2 = (mergeLogged base' incoming').2 := by
  obtain ⟨henums, hnotices⟩ := reconcile_rel EnumRecord.mergeRule_respects hb.enums hi.enums
  simp only [mergeLogged, hb.functions, hi.functions, hb.globals, hi.globals, hnotices]
  exact ⟨⟨rfl, henums, rfl⟩, trivial⟩

/-- The result so far and the document before may both be exchanged for alike ones, whichever of them
the next document is merged into. -/
theorem foldFrom_alike (cumulative : Bool) (total position : Nat)
    {result result' previous previous' : Document} {ds ds' : List Document}
    (hresult : result.Alike result') (hprevious : previous.Alike previous')
    (hds : List.Forall₂ Alike ds ds') :
    (foldFrom cumulative total position result previous ds).1.Alike
        (foldFrom cumulative total position result' previous' ds').1 ∧
      (foldFrom cumulative total position result previous ds).2 =
        (foldFrom cumulative total position result' previous' ds').2 := by
  induction hds generalizing position result result' previous previous' with
  | nil => exact ⟨hresult, rfl⟩
  | @cons d d' rest rest' hd _ ih =>
    have hbase : (if cumulative then result else previous).Alike
        (if cumulative then result' else previous') := by
      split
      · exact hresult
      · exact hprevious
    obtain ⟨hmerged, hnotices⟩ := mergeLogged_alike hbase hd
    obtain ⟨hfinal, hmore⟩ := ih (position + 1) hmerged hd
    exact ⟨hfinal, congrArg₂ (fun ns ms => Notice.folding position total :: ns ++ ms) hnotices hmore⟩

theorem foldLogged_alike (cumulative : Bool) {ds ds' : List Document}
    (h : List.Forall₂ Alike ds ds') :
    (foldLogged cumulative ds).1.Alike (foldLogged cumulative ds').1 ∧
      (foldLogged cumulative ds).2 = (foldLogged cumulative ds').2 := by
  cases h with
  | nil => exact ⟨⟨rfl, .nil, rfl⟩, rfl⟩
  | cons hd hrest =>
    rw [foldLogged, foldLogged, hrest.length_eq]
    exact foldFrom_alike cumulative _ _ hd hd hrest

/-- **The order of members is immaterial to merging.** Alike documents have alike merges with the same
notices, and so have sequences of alike documents that are folded, in either way; names may be repeated. -/
theorem merge_fold_of_alike :
    (∀ base base' incoming incoming' : Document, base.Alike base' → incoming.Alike incoming' →
      (base.merge incoming).Alike (base'.merge incoming') ∧
        (mergeLogged base incoming).2 = (mergeLogged base' incoming').2) ∧
    ∀ (cumulative : Bool) (ds ds' : List Document), List.Forall₂ Alike ds ds' →
      (fold cumulative ds).Alike (fold cumulative ds') ∧
        (foldLogged cumulative ds).2 = (foldLogged cumulative ds').2 :=
  ⟨fun _ _ _ _ hb hi => mergeLogged_alike hb hi, fun cumulative _ _ h => foldLogged_alike cumulative h⟩

/-- The base has an enum twice, with a member that is repeated. Merged into it, the same members in
another order are a change, since the last record of the base has lost one of them. -/
theorem merge_fold_of_alike_repeated :
    ∃ a a' b b' : Document, a.Alike a' ∧ b.Alike b' ∧ a.merge b ≠ a'.merge b' ∧
      ((a.merge b).Alike (a'.merge b') ∧ (mergeLogged a b).2 = (mergeLogged a' b').2) ∧
      (mergeLogged a b).2 = [.merged .enum "E"] ∧
      ((fold true [a, b, a]).Alike (fold true [a', b', a']) ∧
        (foldLogged true [a, b, a]).2 = (foldLogged true [a', b', a']).2) := by
  let a : Document := { enums := [⟨"E", [⟨"A", none⟩, ⟨"B", some "2"⟩]⟩, ⟨"E", [⟨"A", none⟩]⟩] }
  let a' : Document := { enums := [⟨"E", [⟨"B", some "2"⟩, ⟨"A", none⟩]⟩, ⟨"E", [⟨"A", none⟩]⟩] }
  let b : Document := { enums := [⟨"E", [⟨"A", none⟩, ⟨"B", some "2"⟩, ⟨"A", none⟩]⟩] }
  let b' : Document := { enums := [⟨"E", [⟨"A", none⟩, ⟨"A", none⟩, ⟨"B", some "2"⟩]⟩] }
  have ha : a.Alike a' :=
    ⟨rfl, .cons ⟨rfl, List.isPerm_iff.1 rfl⟩ (.cons (.refl _) .nil), rfl⟩
  have hb : b.Alike b' := ⟨rfl, .cons ⟨rfl, List.isPerm_iff.1 rfl⟩ .nil, rfl⟩
  have hne : (a.merge b).enums ≠ (a'.merge b').enums := by decide
  exact ⟨a, a', b, b', ha, hb, fun h => hne (congrArg Document.enums h),
    merge_fold_of_alike.1 a a' b b' ha hb, by decide,
    merge_fold_of_alike.2 true [a, b, a] [a', b', a'] (.cons ha (.cons hb (.cons ha .nil)))⟩

end Document

end ScriptDoc
