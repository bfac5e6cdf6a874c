import Mathlib.Data.List.Induction
import ScriptDoc.Proofs.Document.Categories
import ScriptDoc.Proofs.Document.Reconcile

/-!
# The log of a merge

A merge says of each record that comes in whether it is new or changes the record of its name.  The
record it is held against is the one *accumulated* so far: the last one of its name in the base, with
the records of that name that came in before merged into it.  So the log follows from the two lists of
records, whatever has been done to the base on the way.

* `Notice.introducing`, `Notice.merging`, the lines of a log, which no two notices share;
* `Arrival`, a record with those that came in before it, and `MergeRule.accumulated`;
* `Arrival.notice?`, what is said of an arrival, and `snd_reconcile`: the log is what is said of all of
  them, in their order;
* `filterMap_introducedName?_reconcile`: the names that are introduced;
* `accumulated_of_notMem`: a record stays as it is if no change of it is logged;
* `Truthful`, all that the lines of a log say, and `Document.mergeLogged_truthful`.
-/

namespace ScriptDoc

/-! ### Lines -/

/-- A line tells its kind and its name: the words for two kinds differ in their first letter. -/
theorem RecordKind.line_inj (verb : String) {k kind : RecordKind} {y x : String} :
    verb ++ k.word ++ " " ++ y = verb ++ kind.word ++ " " ++ x ↔ k = kind ∧ y = x := by
  refine ⟨fun h => ?_, fun h => by rw [h.1, h.2]⟩
  have hchars := congrArg String.toList h
  simp only [String.toList_append, List.append_assoc, List.append_cancel_left_eq] at hchars
  have hkind : k = kind := by
    revert hchars
    cases k <;> cases kind <;> simp [RecordKind.word]
  subst hkind
  rw [List.append_cancel_left_eq, List.append_cancel_left_eq, String.toList_inj] at hchars
  exact ⟨rfl, hchars⟩

namespace Notice

/-- The kind of the records that a notice of a merge is about. -/
def kind? : Notice → Option RecordKind
  | .introduced kind _ => some kind
  | .merged kind _ => some kind
  | _ => none

/-- The name that a notice introduces among the records of a kind. -/
def introducedName? (kind : RecordKind) : Notice → Option String
  | .introduced k x => if k = kind then some x else none
  | _ => none

/-- A notice of a merge about records of another kind. -/
def IsOther (kind : RecordKind) (n : Notice) : Prop := ∃ k, n.kind? = some k ∧ k ≠ kind

/-- The line for a record that is new. -/
def introducing (kind : RecordKind) (x : String) : String := "Introducing " ++ kind.word ++ " " ++ x

/-- The line for a record that changes the one of its name. -/
def merging (kind : RecordKind) (x : String) : String := "Merging " ++ kind.word ++ " " ++ x

theorem text_introduced (kind : RecordKind) (x : String) :
    (introduced kind x).text = introducing kind x := rfl

theorem text_merged (kind : RecordKind) (x : String) : (merged kind x).text = merging kind x := rfl

theorem introducing_inj {k kind : RecordKind} {y x : String} :
    introducing k y = introducing kind x ↔ k = kind ∧ y = x :=
  RecordKind.line_inj "Introducing "

theorem merging_inj {k kind : RecordKind} {y x : String} :
    merging k y = merging kind x ↔ k = kind ∧ y = x :=
  RecordKind.line_inj "Merging "

theorem introducing_ne_merging (k kind : RecordKind) (y x : String) :
    introducing k y ≠ merging kind x := by
  intro h
  have hchars := congrArg String.toList h
  simp [introducing, merging] at hchars

/-- A line tells which notice it is. -/
theorem text_eq_introducing {n : Notice} (hn : n.kind?.isSome = true) {kind : RecordKind} {x : String} :
    n.text = introducing kind x ↔ n = .introduced kind x := by
  cases n with
  | introduced k y => rw [text_introduced, introducing_inj, introduced.injEq]
  | merged k y =>
    rw [text_merged]
    exact iff_of_false (introducing_ne_merging kind k x y).symm nofun
  | _ => cases hn

theorem text_eq_merging {n : Notice} (hn : n.kind?.isSome = true) {kind : RecordKind} {x : String} :
    n.text = merging kind x ↔ n = .merged kind x := by
  cases n with
  | introduced k y =>
    rw [text_introduced]
    exact iff_of_false (introducing_ne_merging k kind y x) nofun
  | merged k y => rw [text_merged, merging_inj, merged.injEq]
  | _ => cases hn

theorem IsOther.introducedName? {kind : RecordKind} {n : Notice} (h : n.IsOther kind) :
    n.introducedName? kind = none := by
  obtain ⟨k, hk, hne⟩ := h
  cases n with
  | introduced k' y =>
    cases hk
    exact if_neg hne
  | _ => rfl

theorem IsOther.ne_merged {kind : RecordKind} {n : Notice} (h : n.IsOther kind) (x : String) :
    n ≠ .merged kind x := by
  rintro rfl
  obtain ⟨k, hk, hne⟩ := h
  exact hne (Option.some.inj hk).symm

theorem introducedName?_eq_some {kind : RecordKind} {n : Notice} {x : String} :
    n.introducedName? kind = some x ↔ n = .introduced kind x := by
  cases n <;> simp [introducedName?]

end Notice

section Lines

variable {log : List Notice}

theorem count_introducing (h : ∀ n ∈ log, n.kind?.isSome = true) (kind : RecordKind) (x : String) :
    (log.map Notice.text).count (Notice.introducing kind x) =
      (log.filterMap (·.introducedName? kind)).count x := by
  rw [List.count, List.countP_map, List.count_filterMap]
  refine List.countP_congr fun n hn => ?_
  rw [Function.comp_apply, beq_iff_eq, beq_iff_eq, Notice.text_eq_introducing (h n hn),
    Notice.introducedName?_eq_some]

theorem count_merging (h : ∀ n ∈ log, n.kind?.isSome = true) (kind : RecordKind) (x : String) :
    (log.map Notice.text).count (Notice.merging kind x) = log.count (.merged kind x) := by
  rw [List.count, List.countP_map, List.count]
  refine List.countP_congr fun n hn => ?_
  rw [Function.comp_apply, beq_iff_eq, beq_iff_eq, Notice.text_eq_merging (h n hn)]

/-- Notices of other kinds introduce nothing and change nothing. -/
theorem filterMap_introducedName?_others {kind : RecordKind} (h : ∀ n ∈ log, n.IsOther kind) :
    log.filterMap (·.introducedName? kind) = [] :=
  List.filterMap_eq_nil_iff.2 fun n hn => (h n hn).introducedName?

theorem count_merged_others {kind : RecordKind} (h : ∀ n ∈ log, n.IsOther kind) (x : String) :
    log.count (.merged kind x) = 0 :=
  List.count_eq_zero.2 fun hx => (h _ hx).ne_merged x rfl

end Lines

/-! ### Records that come in -/

/-- A record that comes in, with the records that came in before it. -/
structure Arrival (α : Type) where
  before : List α
  record : α

/-- Records as they come in one after the other. -/
def arrivals {α : Type} (incoming : List α) : List (Arrival α) :=
  incoming.mapIdx fun i r => ⟨incoming.take i, r⟩

theorem arrivals_concat {α : Type} (incoming : List α) (r : α) :
    arrivals (incoming ++ [r]) = arrivals incoming ++ [⟨incoming, r⟩] := by
  have hearlier : incoming.mapIdx (fun i s => (⟨(incoming ++ [r]).take i, s⟩ : Arrival α)) =
      arrivals incoming := by
    refine List.mapIdx_eq_mapIdx_iff.2 fun i hi => ?_
    rw [List.take_append_of_le_length (Nat.le_of_lt hi)]
  rw [arrivals, List.mapIdx_append, hearlier]
  simp

section Named

variable {α : Type} [Named α] {rule : MergeRule α}

/-- The record of a name when the records `before` have come in: the last one in the base, with those of
that name merged into it one after the other. -/
def MergeRule.accumulated (rule : MergeRule α) (base before : List α) (x : String) : Option α :=
  (before.filter (Named.name · = x)).foldl (fun o r => Option.merge rule.merge o (some r))
    (base.filter (Named.name · = x)).getLast?

/-- A record is held against the one accumulated for its name, and is not the same. -/
def Arrival.Changes (rule : MergeRule α) (base : List α) (a : Arrival α) : Prop :=
  ∃ x ∈ rule.accumulated base a.before (Named.name a.record), rule.same x a.record = false

instance (rule : MergeRule α) (base : List α) (a : Arrival α) : Decidable (a.Changes rule base) :=
  inferInstanceAs (Decidable (∃ x ∈ rule.accumulated base _ _, _))

/-- What is said of a record that comes in. -/
def Arrival.notice? (rule : MergeRule α) (base : List α) (a : Arrival α) : Option Notice :=
  match rule.accumulated base a.before (Named.name a.record) with
  | none => some (.introduced rule.kind (Named.name a.record))
  | some x => if rule.same x a.record then none else some (.merged rule.kind (Named.name a.record))

theorem accumulated_concat (base before : List α) (r : α) (x : String) :
    rule.accumulated base (before ++ [r]) x =
      if Named.name r = x then Option.merge rule.merge (rule.accumulated base before x) (some r)
      else rule.accumulated base before x := by
  unfold MergeRule.accumulated
  by_cases h : Named.name r = x <;> simp [h]

/-- The accumulated record is the one that the loop has in its hands. -/
theorem findNamed?_reconcile_eq_accumulated (hl : rule.Lawful) (base before : List α) (x : String) :
    findNamed? x (reconcile rule base before).1 = rule.accumulated base before x := by
  rw [findNamed?_reconcile_foldl hl, findNamed?_lastNamed, MergeRule.accumulated]

theorem accumulated_eq_none_iff (hl : rule.Lawful) {base before : List α} {x : String} :
    rule.accumulated base before x = none ↔ x ∉ names base ∧ x ∉ names before := by
  rw [← findNamed?_reconcile_eq_accumulated hl, findNamed?_eq_none, names_reconcile hl,
    List.mem_eraseDups, List.mem_append, not_or]

/-! ### What is said of them -/

theorem Arrival.notice?_eq_merged {base : List α} {a : Arrival α} {kind : RecordKind}
    {x : String} : a.notice? rule base = some (.merged kind x) ↔
      a.Changes rule base ∧ rule.kind = kind ∧ Named.name a.record = x := by
  unfold notice? Changes
  cases h : rule.accumulated base a.before (Named.name a.record) with
  | none => simp
  | some y => by_cases hs : rule.same y a.record = true <;> simp [hs]

theorem Arrival.kind?_of_notice? {base : List α} {a : Arrival α} {n : Notice}
    (h : a.notice? rule base = some n) : n.kind? = some rule.kind := by
  unfold notice? at h
  split at h
  · cases h
    rfl
  · split at h
    · cases h
    · cases h
      rfl

/-- One step says what there is to say of the record that comes in. -/
theorem snd_reconcileStep (hl : rule.Lawful) (base before : List α) (r : α) :
    (reconcileStep rule (reconcile rule base before).1 r).2 =
      (Arrival.notice? rule base ⟨before, r⟩).toList := by
  rw [reconcileStep, Arrival.notice?, findNamed?_reconcile_eq_accumulated hl]
  cases rule.accumulated base before (Named.name r) with
  | none => rfl
  | some x => by_cases hs : rule.same x r = true <;> simp [hs]

theorem snd_reconcileFrom_concat (known rs : List α) (r : α) :
    (reconcileFrom rule known (rs ++ [r])).2 =
      (reconcileFrom rule known rs).2 ++ (reconcileStep rule (reconcileFrom rule known rs).1 r).2 := by
  induction rs generalizing known with
  | nil => simp [reconcileFrom]
  | cons s rs ih =>
    show (reconcileStep rule known s).2 ++ (reconcileFrom rule _ (rs ++ [r])).2 = _
    rw [ih, ← List.append_assoc]
    rfl

/-- **The log** is what is said of all records that come in, in their order. -/
theorem snd_reconcile (hl : rule.Lawful) (base incoming : List α) :
    (reconcile rule base incoming).2 = (arrivals incoming).filterMap (·.notice? rule base) := by
  -- each record is judged by those before it, so the induction is from the end
  induction incoming using List.reverseRecOn with
  | nil => rfl
  | append_singleton rs r ih =>
    have hstep := snd_reconcileStep hl base rs r
    rw [reconcile] at ih hstep
    rw [reconcile, snd_reconcileFrom_concat, ih, hstep, arrivals_concat, List.filterMap_append]
    cases h : Arrival.notice? rule base ⟨rs, r⟩ <;> simp [h]

theorem kind?_of_mem_reconcile (hl : rule.Lawful) {base incoming : List α} {n : Notice}
    (h : n ∈ (reconcile rule base incoming).2) : n.kind? = some rule.kind := by
  rw [snd_reconcile hl, List.mem_filterMap] at h
  obtain ⟨a, -, ha⟩ := h
  exact a.kind?_of_notice? ha

/-- What an arrival introduces: its name, if nothing has been accumulated for it. -/
theorem Arrival.introducedName?_notice? (base : List α) (a : Arrival α) :
    (a.notice? rule base).bind (·.introducedName? rule.kind) =
      if rule.accumulated base a.before (Named.name a.record) = none then some (Named.name a.record)
      else none := by
  unfold notice?
  cases rule.accumulated base a.before (Named.name a.record) with
  | none => simp [Notice.introducedName?]
  | some y => by_cases hs : rule.same y a.record = true <;> simp [hs, Notice.introducedName?]

/-- The names that are introduced are the new ones, each once. -/
theorem filterMap_introducedName?_reconcile (hl : rule.Lawful) (base incoming : List α) :
    (reconcile rule base incoming).2.filterMap (·.introducedName? rule.kind) =
      (names incoming).eraseDups.filter (· ∉ names base) := by
  rw [snd_reconcile hl, List.filterMap_filterMap]
  simp only [Arrival.introducedName?_notice?, accumulated_eq_none_iff hl]
  induction incoming using List.reverseRecOn with
  | nil => rfl
  | append_singleton rs r ih =>
    rw [arrivals_concat, List.filterMap_append, ih, names_append, names_cons, names_nil,
      eraseDups_append_singleton]
    by_cases hr : Named.name r ∈ names rs
    · simp [hr]
    · by_cases hb : Named.name r ∈ names base <;> simp [hr, hb]

/-- The names afterwards are those of the base and then those that are introduced. -/
theorem names_reconcile_introduced (hl : rule.Lawful) (base incoming : List α) :
    names (reconcile rule base incoming).1 = (names base).eraseDups ++
      (reconcile rule base incoming).2.filterMap (·.introducedName? rule.kind) := by
  rw [filterMap_introducedName?_reconcile hl, names_reconcile hl, eraseDups_append_eq]

/-- A change is logged once for each record that makes one. -/
theorem count_merged_reconcile (hl : rule.Lawful) (base incoming : List α) (x : String) :
    (reconcile rule base incoming).2.count (.merged rule.kind x) =
      (arrivals incoming).countP fun a => Named.name a.record = x ∧ a.Changes rule base := by
  rw [snd_reconcile hl, List.count_filterMap]
  refine List.countP_congr fun a _ => ?_
  rw [beq_iff_eq, Arrival.notice?_eq_merged, decide_eq_true_eq]
  simp [and_comm]

/-- A record of the base stays as it is if no change of it is logged. -/
theorem accumulated_of_notMem (hl : rule.Lawful) {base incoming : List α} {b : α}
    (hb : (base.filter (Named.name · = Named.name b)).getLast? = some b)
    (h : .merged rule.kind (Named.name b) ∉ (reconcile rule base incoming).2) :
    rule.accumulated base incoming (Named.name b) = some b := by
  rw [snd_reconcile hl, List.mem_filterMap] at h
  induction incoming using List.reverseRecOn with
  | nil => exact hb
  | append_singleton rs r ih =>
    have hrest := ih fun ⟨a, ha, hsaid⟩ =>
      h ⟨a, by rw [arrivals_concat]; exact List.mem_append_left _ ha, hsaid⟩
    rw [accumulated_concat]
    split
    · next hname =>
      -- a record that is held against `b` and not the same would have been logged
      have hsame : rule.same b r = true := by
        by_contra hs
        refine h ⟨⟨rs, r⟩, by simp [arrivals_concat], Arrival.notice?_eq_merged.2 ⟨?_, rfl, hname⟩⟩
        exact ⟨b, by rw [hname, hrest]; rfl, by simpa using hs⟩
      rw [hrest, Option.merge_some_some, hl.merge_of_same b r hsame]
    · exact hrest

/-! ### The whole log -/

/-- All that the lines of a log say of the records of one kind, where records `incoming` have been brought
into records `base` with the given result. -/
structure Truthful (rule : MergeRule α) (base incoming result : List α) (log : List Notice) : Prop where
  /-- A name is introduced once if it is new, and never otherwise. -/
  introduced : ∀ x, (log.map Notice.text).count (Notice.introducing rule.kind x) =
    if x ∈ names incoming ∧ x ∉ names base then 1 else 0
  /-- A change is logged once for each record that differs from the one accumulated for its name. -/
  merged : ∀ x, (log.map Notice.text).count (Notice.merging rule.kind x) =
    (arrivals incoming).countP fun a => Named.name a.record = x ∧ a.Changes rule base
  /-- The base comes first, then what is introduced, in the order of the log. -/
  names : names result = (names base).eraseDups ++ log.filterMap (·.introducedName? rule.kind)
  /-- What is accumulated for a name in the end is its record. -/
  accumulated : ∀ x, findNamed? x result = rule.accumulated base incoming x
  /-- A record of the base of which no change is logged is there as it was. -/
  kept : ∀ b, (base.filter (Named.name · = Named.name b)).getLast? = some b →
    Notice.merging rule.kind (Named.name b) ∉ log.map Notice.text → b ∈ result

/-- A log tells the truth, also among notices of other kinds. -/
theorem truthful_reconcile (hl : rule.Lawful) (base incoming : List α) {before after : List Notice}
    (hbefore : ∀ n ∈ before, n.IsOther rule.kind) (hafter : ∀ n ∈ after, n.IsOther rule.kind) :
    Truthful rule base incoming (reconcile rule base incoming).1
      (before ++ (reconcile rule base incoming).2 ++ after) := by
  have hsome : ∀ n ∈ before ++ (reconcile rule base incoming).2 ++ after, n.kind?.isSome = true := by
    intro n hn
    simp only [List.mem_append] at hn
    obtain (hn | hn) | hn := hn
    · obtain ⟨k, hk, -⟩ := hbefore n hn
      rw [hk, Option.isSome_some]
    · rw [kind?_of_mem_reconcile hl hn, Option.isSome_some]
    · obtain ⟨k, hk, -⟩ := hafter n hn
      rw [hk, Option.isSome_some]
  have hintroduced : (before ++ (reconcile rule base incoming).2 ++ after).filterMap
      (·.introducedName? rule.kind) =
        (reconcile rule base incoming).2.filterMap (·.introducedName? rule.kind) := by
    rw [List.filterMap_append, List.filterMap_append, filterMap_introducedName?_others hbefore,
      filterMap_introducedName?_others hafter, List.nil_append, List.append_nil]
  have hmerged (x : String) : ((before ++ (reconcile rule base incoming).2 ++ after).map
      Notice.text).count (Notice.merging rule.kind x) =
        (reconcile rule base incoming).2.count (.merged rule.kind x) := by
    rw [count_merging hsome, List.count_append, List.count_append, count_merged_others hbefore,
      count_merged_others hafter, Nat.zero_add, Nat.add_zero]
  refine ⟨fun x => ?_, fun x => ?_, ?_, findNamed?_reconcile_eq_accumulated hl base incoming,
    fun b hb hno => ?_⟩
  · have hnodup := (nodup_eraseDups (names incoming)).filter fun x => decide (x ∉ names base)
    rw [count_introducing hsome, hintroduced, filterMap_introducedName?_reconcile hl, hnodup.count]
    simp
  · rw [hmerged, count_merged_reconcile hl]
  · rw [hintroduced, names_reconcile_introduced hl]
  · rw [← List.count_eq_zero, hmerged, List.count_eq_zero] at hno
    have hfind := accumulated_of_notMem hl hb hno
    rw [← findNamed?_reconcile_eq_accumulated hl] at hfind
    exact mem_of_findNamed? hfind

end Named

/-! ### Documents -/

namespace Document

/-- **The log of a merge tells the truth.** It speaks of the functions first, then of the enums and then of
the globals.  Of each kind it introduces the names that are new, each once, and says of each other record
whether it differs from the one accumulated so far; what it does not mention is left as it was. -/
theorem mergeLogged_truthful (base incoming : Document) :
    ∃ functions : List FunctionRecord,
      (base.merge incoming).categories = categorize functions ∧
      (base.merge incoming).functions.Perm functions ∧
      (∃ functionLog enumLog globalLog,
        (mergeLogged base incoming).2 = functionLog ++ enumLog ++ globalLog ∧
        (∀ n ∈ functionLog, n.kind? = some .function) ∧ (∀ n ∈ enumLog, n.kind? = some .enum) ∧
        ∀ n ∈ globalLog, n.kind? = some .global) ∧
      Truthful FunctionRecord.mergeRule base.functions incoming.functions functions
        (mergeLogged base incoming).2 ∧
      Truthful EnumRecord.mergeRule base.enums incoming.enums (base.merge incoming).enums
        (mergeLogged base incoming).2 ∧
      Truthful GlobalRecord.mergeRule base.globals incoming.globals (base.merge incoming).globals
        (mergeLogged base incoming).2 := by
  let functions := reconcile FunctionRecord.mergeRule base.functions incoming.functions
  let enums := reconcile EnumRecord.mergeRule base.enums incoming.enums
  let globals := reconcile GlobalRecord.mergeRule base.globals incoming.globals
  have hlog : (mergeLogged base incoming).2 = functions.2 ++ enums.2 ++ globals.2 := rfl
  have hfunctions : ∀ n ∈ functions.2, n.kind? = some .function :=
    fun _ => kind?_of_mem_reconcile FunctionRecord.mergeRule_lawful
  have henums : ∀ n ∈ enums.2, n.kind? = some .enum :=
    fun _ => kind?_of_mem_reconcile EnumRecord.mergeRule_lawful
  have hglobals : ∀ n ∈ globals.2, n.kind? = some .global :=
    fun _ => kind?_of_mem_reconcile GlobalRecord.mergeRule_lawful
  refine ⟨functions.1, rfl, functions_categorize_perm _,
    ⟨functions.2, enums.2, globals.2, hlog, hfunctions, henums, hglobals⟩, ?_, ?_, ?_⟩
  · have hafter : ∀ n ∈ enums.2 ++ globals.2, n.IsOther .function := fun n hn =>
      (List.mem_append.1 hn).elim (fun h => ⟨_, henums n h, nofun⟩) fun h => ⟨_, hglobals n h, nofun⟩
    have htrue : Truthful FunctionRecord.mergeRule base.functions incoming.functions functions.1
        ([] ++ functions.2 ++ (enums.2 ++ globals.2)) :=
      truthful_reconcile FunctionRecord.mergeRule_lawful _ _ (List.forall_mem_nil _) hafter
    rwa [List.nil_append, ← List.append_assoc] at htrue
  · exact truthful_reconcile EnumRecord.mergeRule_lawful base.enums incoming.enums
      (fun n hn => ⟨_, hfunctions n hn, nofun⟩) fun n hn => ⟨_, hglobals n hn, nofun⟩
  · have hbefore : ∀ n ∈ functions.2 ++ enums.2, n.IsOther .global := fun n hn =>
      (List.mem_append.1 hn).elim (fun h => ⟨_, hfunctions n h, nofun⟩) fun h => ⟨_, henums n h, nofun⟩
    have htrue : Truthful GlobalRecord.mergeRule base.globals incoming.globals globals.1
        (functions.2 ++ enums.2 ++ globals.2 ++ []) :=
      truthful_reconcile GlobalRecord.mergeRule_lawful _ _ hbefore (List.forall_mem_nil _)
    rwa [List.append_nil] at htrue

/-- The second record of `A` is held against what the first one has made of the base. -/
example :
    (mergeLogged { globals := [⟨"A", none, none, none⟩] }
      { globals := [⟨"A", some "1", none, none⟩, ⟨"B", none, none, none⟩, ⟨"A", some "1", none, none⟩,
        ⟨"B", none, some "b", none⟩] }).2.map Notice.text =
      ["Merging global A", "Introducing global B", "Merging global B"] := by
  decide +kernel

end Document

end ScriptDoc
