import Mathlib.Data.List.Induction
import ScriptDoc.Proofs.Document.Canonical
import ScriptDoc.Proofs.Source.Strictness

/-!
# Units that fail leave no trace

Generation reads units one after the other.  A unit that fails adds its identifier to the failures
and nothing else, so the document is that of the other units.  Of their functions none is lost: each
is in the document, or a warning says that its name is documented already.

* `SourceUnit.result`, `SourceUnit.reads`, the reading of a unit and whether it comes to its end;
* `Generation.Run.Accounts`, what the state of a run has to do with the units behind it;
* `Generation.Run.Accounts.unit`: one more unit keeps this;
* `Generation.generate_isolates`.
-/

namespace ScriptDoc

/-! ### Units -/

namespace SourceUnit

/-- The reading of a unit, which is an identifier with its lines. -/
def result (marker : String) (strict : Bool) (u : String × List String) :
    Except BlockError UnitResult :=
  (parse marker strict u.1 u.2).1

/-- Whether a unit is read to its end. -/
def reads (marker : String) (strict : Bool) (u : String × List String) : Bool :=
  (result marker strict u).isOk

variable {marker : String} {strict : Bool} {u : String × List String}

theorem reads_false : reads marker false u = true := by
  rw [reads, result, parse_false_eq_ok]
  rfl

/-- A unit that is read to its end in strict mode is read as in lenient mode. -/
theorem result_eq_of_reads (h : reads marker strict u = true) :
    result marker strict u = result marker false u := by
  cases hfind : (documented marker u.2).find? (·.IsFaulty marker) with
  | none => exact parse_of_find?_eq_none hfind strict
  | some p =>
    cases strict with
    | false => rfl
    | true =>
      have hp : p.IsFaulty marker := by simpa using List.find?_some hfind
      obtain ⟨name, -, hread⟩ := reading_of_isFaulty hp u.1
      rw [reads, result, parse_of_find?_eq_some hfind hread] at h
      cases h

end SourceUnit

/-! ### Warnings -/

/-- Whether a notice warns of a function that is documented already. -/
def Notice.isDuplicate : Notice → Bool
  | .duplicate _ _ _ => true
  | _ => false

theorem SourceUnit.countP_isDuplicate_parse (marker : String) (strict : Bool) (identifier : String)
    (lines : List String) :
    (parse marker strict identifier lines).2.countP Notice.isDuplicate = 0 := by
  rw [parse, List.countP_map]
  exact List.countP_eq_zero.2 fun _ _ h => by cases h

/-! ### Runs -/

namespace Generation

/-- A key that is there keeps its place, a new one goes to the end. -/
theorem keys_setFailure (key reason : String) (fs : List (String × String)) :
    (setFailure key reason fs).map Prod.fst =
      if key ∈ fs.map Prod.fst then fs.map Prod.fst else fs.map Prod.fst ++ [key] := by
  induction fs with
  | nil => rfl
  | cons f fs ih =>
    obtain ⟨k, r⟩ := f
    by_cases h : k = key
    · simp [setFailure, h]
    · simp only [setFailure, beq_iff_eq, h, if_false, List.map_cons, ih, List.mem_cons, Ne.symm h,
        false_or]
      split <;> rfl

namespace Run

/-- How many warnings of repeated functions there have been. -/
def duplicates (s : Run) : Nat := s.notices.countP Notice.isDuplicate

@[simp] theorem duplicates_note (s : Run) (n : Notice) :
    (s.note n).duplicates = s.duplicates + if n.isDuplicate then 1 else 0 := by
  rw [duplicates, note, List.countP_append, List.countP_singleton, duplicates]

/-- What functions do to a run: the first of each name is taken in, and each of the others gives one
warning. -/
structure Takes (s : Run) (fs : List FunctionRecord) (t : Run) : Prop where
  functions : ∀ {gs}, s.functions = firstNamed gs → t.functions = firstNamed (gs ++ fs)
  units : t.units = s.units
  failures : t.failures = s.failures
  count : t.functions.length + t.duplicates = s.functions.length + s.duplicates + fs.length

theorem Takes.nil (s : Run) : s.Takes [] s :=
  ⟨fun h => by rw [List.append_nil]; exact h, rfl, rfl, rfl⟩

theorem Takes.trans {s t v : Run} {fs gs : List FunctionRecord} (hst : s.Takes fs t)
    (htv : t.Takes gs v) : s.Takes (fs ++ gs) v where
  functions h := by rw [htv.functions (hst.functions h), List.append_assoc]
  units := htv.units.trans hst.units
  failures := htv.failures.trans hst.failures
  count := by rw [htv.count, hst.count, List.length_append, Nat.add_assoc]

theorem takes_add (identifier : String) (s : Run) (f : FunctionRecord) :
    s.Takes [f] (s.add identifier f) := by
  have hfirst {gs : List FunctionRecord} (h : s.functions = firstNamed gs) :
      firstNamed (gs ++ [f]) =
        if (findNamed? f.name s.functions).isSome then s.functions else s.functions ++ [f] := by
    rw [firstNamed, List.foldl_append, ← firstNamed, ← h]
    rfl
  unfold Run.add
  cases hfind : findNamed? f.name s.functions with
  | none =>
    refine ⟨fun h => by rw [hfirst h, hfind]; rfl, rfl, rfl, ?_⟩
    show (s.functions ++ [f]).length + s.duplicates = _
    rw [List.length_append, Nat.add_right_comm]
  | some first =>
    refine ⟨fun h => by rw [hfirst h, hfind]; rfl, rfl, rfl, ?_⟩
    rw [duplicates_note]
    rfl

theorem takes_foldl_add (identifier : String) (s : Run) (fs : List FunctionRecord) :
    s.Takes fs (fs.foldl (Run.add identifier) s) := by
  induction fs generalizing s with
  | nil => exact .nil s
  | cons f fs ih => exact (takes_add identifier s f).trans (ih (s.add identifier f))

section Unit

variable {marker : String} {strict : Bool} {u : String × List String} {s : Run}

/-- A unit that fails adds a failure, and changes neither functions nor units nor the number of
warnings. -/
theorem unit_of_error {e : BlockError} (hu : SourceUnit.result marker strict u = .error e) :
    (s.unit marker strict u.1 u.2).functions = s.functions ∧
      (s.unit marker strict u.1 u.2).units = s.units ∧
      (s.unit marker strict u.1 u.2).failures = setFailure u.1 e.message s.failures ∧
      (s.unit marker strict u.1 u.2).duplicates = s.duplicates := by
  have hcount := SourceUnit.countP_isDuplicate_parse marker strict u.1 u.2
  unfold Run.unit
  rw [SourceUnit.result] at hu
  generalize SourceUnit.parse marker strict u.1 u.2 = p at hu hcount
  obtain ⟨result, notices⟩ := p
  subst hu
  refine ⟨rfl, rfl, rfl, ?_⟩
  show ((s.notices ++ notices) ++ [Notice.aborted u.1 e.message]).countP Notice.isDuplicate = _
  rw [List.countP_append, List.countP_append, hcount]
  rfl

/-- A unit that is read to its end is listed, and then its functions come in. -/
theorem unit_of_ok {r : UnitResult} (hu : SourceUnit.result marker strict u = .ok r) :
    ∃ t : Run, t.functions = s.functions ∧ t.units = s.units ++ [r] ∧ t.failures = s.failures ∧
      t.duplicates = s.duplicates ∧ t.Takes r.functions (s.unit marker strict u.1 u.2) := by
  have hcount := SourceUnit.countP_isDuplicate_parse marker strict u.1 u.2
  unfold Run.unit
  rw [SourceUnit.result] at hu
  generalize SourceUnit.parse marker strict u.1 u.2 = p at hu hcount
  obtain ⟨result, notices⟩ := p
  subst hu
  -- neither the notices of the reading nor the one that functions were found are warnings
  have hnotices : (s.notices ++ notices).countP Notice.isDuplicate = s.duplicates := by
    rw [List.countP_append, hcount]
    rfl
  dsimp only
  split
  · refine ⟨_, ?_, ?_, ?_, ?_, takes_foldl_add u.1 _ r.functions⟩
    exacts [rfl, rfl, rfl, hnotices]
  · refine ⟨_, ?_, ?_, ?_, ?_, takes_foldl_add u.1 _ r.functions⟩
    exacts [rfl, rfl, rfl, (duplicates_note _ _).trans hnotices]

end Unit

/-- What the state of a run has to do with the units behind it. -/
structure Accounts (marker : String) (strict : Bool) (done : List (String × List String))
    (s : Run) : Prop where
  units : s.units.map Except.ok =
    (done.filter (SourceUnit.reads marker strict)).map (SourceUnit.result marker strict)
  failures : s.failures.map Prod.fst =
    ((done.filter (!SourceUnit.reads marker strict ·)).map Prod.fst).eraseDups
  functions : s.functions = firstNamed (s.units.flatMap (·.functions))
  count : (s.units.flatMap (·.functions)).length = s.functions.length + s.duplicates

variable {marker : String} {strict : Bool}

theorem accounts_nil (marker : String) (strict : Bool) : Accounts marker strict [] {} :=
  ⟨rfl, rfl, rfl, rfl⟩

/-- One more unit. -/
theorem Accounts.unit {done : List (String × List String)} {s : Run}
    (h : Accounts marker strict done s) (u : String × List String) :
    Accounts marker strict (done ++ [u]) (s.unit marker strict u.1 u.2) := by
  cases hu : SourceUnit.result marker strict u with
  | error e =>
    have hreads : SourceUnit.reads marker strict u = false := by rw [SourceUnit.reads, hu]; rfl
    obtain ⟨hf, hun, hfail, hd⟩ := unit_of_error (s := s) hu
    refine ⟨?_, ?_, ?_, ?_⟩
    · rw [hun, h.units]
      simp [hreads]
    · rw [hfail, keys_setFailure, h.failures]
      simp only [List.mem_eraseDups]
      simp [hreads, eraseDups_append_singleton]
    · rw [hf, hun, h.functions]
    · rw [hun, hf, hd, h.count]
  | ok r =>
    have hreads : SourceUnit.reads marker strict u = true := by rw [SourceUnit.reads, hu]; rfl
    obtain ⟨t, hf, hun, hfail, hd, htakes⟩ := unit_of_ok (s := s) hu
    refine ⟨?_, ?_, ?_, ?_⟩
    · rw [htakes.units, hun, List.map_append, h.units]
      simp [hreads, hu]
    · rw [htakes.failures, hfail, h.failures]
      simp [hreads]
    · rw [htakes.functions (hf.trans h.functions), htakes.units, hun, List.flatMap_append]
      simp
    · rw [htakes.units, hun, List.flatMap_append, List.length_append, h.count, htakes.count, hf, hd]
      simp

theorem accounts_foldl (marker : String) (strict : Bool) (units : List (String × List String)) :
    Accounts marker strict units (units.foldl (fun s u => s.unit marker strict u.1 u.2) {}) := by
  induction units using List.reverseRecOn with
  | nil => exact accounts_nil marker strict
  | append_singleton units u ih =>
    rw [List.foldl_append, List.foldl_cons, List.foldl_nil]
    exact ih.unit u

end Run

/-! ### Whole lists of units -/

/-- The document depends on nothing but the readings of the units that come to their end. -/
theorem document_generate_congr {marker : String} {strict mode : Bool}
    {units others : List (String × List String)}
    (h : (units.filter (SourceUnit.reads marker strict)).map (SourceUnit.result marker strict) =
      (others.filter (SourceUnit.reads marker mode)).map (SourceUnit.result marker mode)) :
    (generate marker strict units).1.document = (generate marker mode others).1.document := by
  have hs := Run.accounts_foldl marker strict units
  have ht := Run.accounts_foldl marker mode others
  rw [← hs.units, ← ht.units] at h
  have hunits := List.map_injective_iff.2 (fun _ _ he => Except.ok.inj he) h
  show Document.ofFunctions _ = Document.ofFunctions _
  rw [hs.functions, ht.functions, hunits]

/-- **A unit that fails leaves no trace but its failure, and of the other units no function is
lost.** The other units give the same document on their own, unless they are now read in strict mode
and only lenient mode comes to their end. -/
theorem generate_isolates (marker : String) (strict : Bool) (units : List (String × List String)) :
    let g := (generate marker strict units).1
    let read := units.filter (SourceUnit.reads marker strict)
    g.units.map Except.ok = read.map (SourceUnit.result marker strict) ∧
      g.failures.map Prod.fst =
        ((units.filter (!SourceUnit.reads marker strict ·)).map Prod.fst).eraseDups ∧
      g.document = { categories := categorize (firstNamed (g.units.flatMap (·.functions))) } ∧
      (∀ mode, (mode = true → strict = true ∨ ∀ u ∈ read, SourceUnit.reads marker true u = true) →
        (generate marker mode read).1.document = g.document) ∧
      (g.units.flatMap (·.functions)).length =
        g.document.functions.length +
          (generate marker strict units).2.countP Notice.isDuplicate := by
  have h := Run.accounts_foldl marker strict units
  refine ⟨h.units, h.failures, ?_, fun mode hmode => ?_, ?_⟩
  · show Document.ofFunctions _ = _
    rw [h.functions]
    rfl
  · have hread : ∀ u ∈ units.filter (SourceUnit.reads marker strict),
        SourceUnit.reads marker mode u = true := by
      intro u hu
      cases mode with
      | false => exact SourceUnit.reads_false
      | true =>
        rcases hmode rfl with rfl | hall
        · exact (List.mem_filter.1 hu).2
        · exact hall u hu
    refine document_generate_congr ?_
    rw [List.filter_eq_self.2 hread]
    refine List.map_congr_left fun u hu => ?_
    rw [SourceUnit.result_eq_of_reads (hread u hu),
      SourceUnit.result_eq_of_reads (List.mem_filter.1 hu).2]
  · refine h.count.trans (congrArg (· + _) ?_)
    exact (functions_categorize_perm _).length_eq.symm

/-- Two units document a function of one name, and the first is given up after it. -/
theorem generate_isolates_given_up :
    let units := [("a", ["--", "function Run (x)", "--@args", "function Stop (x)"]),
      ("b", ["--@shortdesc runs", "function Run (y)"])]
    let read := units.filter (SourceUnit.reads "--" true)
    read.map Prod.fst = ["b"] ∧
      (generate "--" false read).1.document = (generate "--" true units).1.document := by
  refine ⟨by decide +kernel, ?_⟩
  exact (generate_isolates "--" true _).2.2.2.1 false fun h => absurd h (by decide)

/-- Units that lenient mode reads to their end may fail in strict mode, and then do not give the same
document. -/
theorem generate_strict_ne_lenient :
    let units := [("a", ["--", "function Run (x)", "--@args", "function Stop (x)"])]
    (generate "--" true (units.filter (SourceUnit.reads "--" false))).1.document ≠
      (generate "--" false units).1.document := by
  decide +kernel

end Generation

end ScriptDoc
