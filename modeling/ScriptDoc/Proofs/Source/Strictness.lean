import ScriptDoc.Proofs.Source.Attachment
import ScriptDoc.Source.Reading

/-!
# Strict and lenient reading

The one error of a doc block that strict mode does not pass over is an argument directive without
arguments.  Lines of a block are trimmed, so such a line is the bare tag `@args`; and a block is read
at all only for a declaration that has a name.

* `DocBlock.foldlM_step_of_mem`, `DocBlock.foldlM_step_of_notMem`: a block fails exactly if the bare
  tag is one of its lines;
* `PlacedLine.IsFaulty`, the documented declarations that strict mode does not pass over;
* `SourceUnit.outcome_strict`: strict mode stops at the first of these, and is like lenient mode in a
  unit that has none.
-/

namespace ScriptDoc

open ScriptDoc.Text

/-! ### Lines of a block -/

namespace Directive

theorem content?_eq_some {tag line t : String} (h : content? tag line = some t) :
    ∃ rest, line.toList = tag.toList ++ rest ∧ t = String.ofList (trim rest) := by
  obtain ⟨rest, hrest, rfl⟩ := Option.map_eq_some_iff.1 h
  exact ⟨rest, (List.isPrefixOf?_eq_some_iff_append_eq.1 hrest).symm, rfl⟩

theorem content?_of_ofLine_arguments {line t : String} (h : ofLine line = .arguments t) :
    content? "@args" line = some t := by
  unfold ofLine at h
  split at h
  · cases h
  · split at h
    · cases h
    · split at h
      · cases h
      · split at h
        · next hargs => cases h; exact hargs
        · cases h

/-- An argument directive that says nothing is the bare tag. -/
theorem eq_args_of_parse?_eq_none {s t : String} (h : ofLine (trimmed s) = .arguments t)
    (ht : ArgumentList.parse? t = none) : trimmed s = "@args" := by
  obtain ⟨rest, hline, rfl⟩ := content?_eq_some (content?_of_ofLine_arguments h)
  rw [toList_trimmed] at hline
  have hblank : ∀ c ∈ rest, isBlank c = true := by
    refine isBlank_of_forall_mem_trim fun c hc => ?_
    exact (ArgumentList.parse?_eq_none_iff _).1 ht c (by rwa [String.toList_ofList])
  rw [trimmed, hline, eq_nil_of_trim_eq_append hline hblank, List.append_nil, String.ofList_toList]

end Directive

namespace DocBlock

theorem step_args (d : Draft) :
    step d (Directive.ofLine "@args") = .error (.badArguments d.record.name "") := rfl

/-- Any other line is taken in, and does not touch the name. -/
theorem step_of_ne (d : Draft) {s : String} (h : trimmed s ≠ "@args") :
    ∃ e, step d (Directive.ofLine (trimmed s)) = .ok e ∧ e.record.name = d.record.name := by
  cases hline : Directive.ofLine (trimmed s) with
  | shortDescription t => exact ⟨_, rfl, rfl⟩
  | extendedDescription t => exact ⟨_, rfl, rfl⟩
  | result t => exact ⟨_, rfl, rfl⟩
  | arguments t =>
    cases ht : ArgumentList.parse? t with
    | none => exact absurd (Directive.eq_args_of_parse?_eq_none hline ht) h
    | some ps =>
      simp only [step, ht]
      exact ⟨_, rfl, rfl⟩
  | plain t =>
    by_cases hc : d.continuing = true
    · exact ⟨_, if_pos hc, rfl⟩
    · exact ⟨_, if_neg hc, rfl⟩

/-- A block with the bare tag among its lines fails, whatever has been read before. -/
theorem foldlM_step_of_mem {block : List String} (hb : ∀ line ∈ block, ∃ s, line = trimmed s)
    (h : "@args" ∈ block) (d : Draft) :
    block.foldlM (fun d line => step d (Directive.ofLine line)) d =
      .error (.badArguments d.record.name "") := by
  induction block generalizing d with
  | nil => cases h
  | cons line block ih =>
    rw [List.foldlM_cons]
    by_cases hline : line = "@args"
    · rw [hline, step_args]
      rfl
    · obtain ⟨s, rfl⟩ := hb line List.mem_cons_self
      obtain ⟨e, he, hname⟩ := step_of_ne d hline
      have hmem : "@args" ∈ block := (List.mem_cons.1 h).resolve_left (Ne.symm hline)
      rw [he, ← hname]
      exact ih (fun l hl => hb l (List.mem_cons_of_mem _ hl)) hmem e

theorem foldlM_step_of_notMem {block : List String} (hb : ∀ line ∈ block, ∃ s, line = trimmed s)
    (h : "@args" ∉ block) (d : Draft) :
    ∃ e, block.foldlM (fun d line => step d (Directive.ofLine line)) d = .ok e := by
  induction block generalizing d with
  | nil => exact ⟨d, rfl⟩
  | cons line block ih =>
    rw [List.mem_cons, not_or] at h
    obtain ⟨s, rfl⟩ := hb line List.mem_cons_self
    obtain ⟨e, he, -⟩ := step_of_ne d (Ne.symm h.1)
    rw [List.foldlM_cons, he]
    exact ih (fun l hl => hb l (List.mem_cons_of_mem _ hl)) h.2 e

end DocBlock

/-! ### Documented declarations -/

namespace PlacedLine

/-- A declaration with a name and with an argument directive that says nothing. -/
def IsFaulty (marker : String) (p : PlacedLine) : Prop :=
  (functionName? (trimmed p.line)).isSome = true ∧ "@args" ∈ p.block marker

instance (marker : String) (p : PlacedLine) : Decidable (p.IsFaulty marker) :=
  inferInstanceAs (Decidable (_ ∧ _))

theorem trimmed_of_mem_block {marker line : String} {p : PlacedLine} (h : line ∈ p.block marker) :
    ∃ s, line = trimmed s := by
  obtain ⟨l, -, rfl⟩ := List.mem_map.1 h
  exact ⟨_, rfl⟩

end PlacedLine

namespace SourceUnit

variable {marker identifier : String} {lines : List String} {p : PlacedLine}

theorem reading_of_isFaulty (h : p.IsFaulty marker) (identifier : String) :
    ∃ name, functionName? (trimmed p.line) = some name ∧
      p.reading marker identifier = .error (.badArguments name "") := by
  obtain ⟨hsome, hargs⟩ := h
  obtain ⟨name, hname⟩ := Option.isSome_iff_exists.1 hsome
  refine ⟨name, hname, ?_⟩
  have hrun := DocBlock.foldlM_step_of_mem (fun _ => PlacedLine.trimmed_of_mem_block) hargs
    ⟨{ name, origin := some identifier }, false⟩
  rw [PlacedLine.reading, FunctionRecord.ofBlock]
  simp only [hname, hrun]
  rfl

theorem isFatal_of_not_isFaulty (h : ¬ p.IsFaulty marker) {e : BlockError}
    (he : p.reading marker identifier = .error e) (strict : Bool) : isFatal strict e = false := by
  rw [PlacedLine.reading, FunctionRecord.ofBlock] at he
  cases hname : functionName? (trimmed p.line) with
  | none =>
    simp only [hname] at he
    cases he
    rfl
  | some name =>
    -- a block without the bare tag is read, so there is no error at all
    have hargs : "@args" ∉ p.block marker := fun hm => h ⟨by rw [hname]; rfl, hm⟩
    obtain ⟨d, hd⟩ := DocBlock.foldlM_step_of_notMem
      (fun _ => PlacedLine.trimmed_of_mem_block) hargs ⟨{ name, origin := some identifier }, false⟩
    simp only [hname, hd] at he
    cases he

/-! ### Units -/

theorem untilFatal_append {strict : Bool} {before after : List (Except BlockError FunctionRecord)}
    {e : BlockError} (hb : ∀ e', .error e' ∈ before → isFatal strict e' = false)
    (he : isFatal strict e = true) :
    untilFatal strict (before ++ .error e :: after) = (before, some e) := by
  induction before with
  | nil => simp [untilFatal, he]
  | cons outcome before ih =>
    have ih := ih fun e' h' => hb e' (List.mem_cons_of_mem outcome h')
    cases outcome with
    | ok f => rw [List.cons_append, untilFatal, ih]
    | error e' => simp [untilFatal, hb e' List.mem_cons_self, ih]

/-- A unit without a faulty declaration is read alike in both modes. -/
theorem parse_of_find?_eq_none (h : (documented marker lines).find? (·.IsFaulty marker) = none)
    (strict : Bool) :
    (parse marker strict identifier lines).1 = (parse marker false identifier lines).1 := by
  rw [parse_false_eq_ok, parse_of_forall]
  intro p hp e he
  have hfault : ¬ p.IsFaulty marker := by simpa using List.find?_eq_none.1 h p hp
  exact isFatal_of_not_isFaulty hfault he strict

theorem parse_of_find?_eq_some {name : String}
    (h : (documented marker lines).find? (·.IsFaulty marker) = some p)
    (hp : p.reading marker identifier = .error (.badArguments name "")) :
    (parse marker true identifier lines).1 = .error (.badArguments name "") := by
  obtain ⟨-, before, after, hlines, hbefore⟩ := List.find?_eq_some_iff_append.1 h
  have hpassed : ∀ e, .error e ∈ before.map (·.reading marker identifier) →
      isFatal true e = false := by
    intro e he
    obtain ⟨q, hq, hread⟩ := List.mem_map.1 he
    exact isFatal_of_not_isFaulty (by simpa using hbefore q hq) hread true
  have houtcomes : untilFatal true ((attached marker lines).map (read identifier)) =
      (before.map (·.reading marker identifier), some (.badArguments name "")) := by
    rw [map_read_attached, hlines, List.map_append, List.map_cons, hp]
    exact untilFatal_append hpassed rfl
  simp only [parse, houtcomes]

theorem fst_outcome (marker : String) (strict : Bool) (identifier : String)
    (lines : List String) :
    (outcome marker strict identifier lines).1 =
      (parse marker strict identifier lines).1.mapError (.block · true) := rfl

/-- Strict mode stops at the first faulty declaration with the error of its block. -/
theorem outcome_of_find?_eq_some
    (h : (documented marker lines).find? (·.IsFaulty marker) = some p) (identifier : String) :
    ∃ name, functionName? (trimmed p.line) = some name ∧
      p.reading marker identifier = .error (.badArguments name "") ∧
      (outcome marker true identifier lines).1 = .error (.block (.badArguments name "") true) := by
  have hp : p.IsFaulty marker := by simpa using List.find?_some h
  obtain ⟨name, hname, hread⟩ := reading_of_isFaulty hp identifier
  refine ⟨name, hname, hread, ?_⟩
  rw [fst_outcome, parse_of_find?_eq_some h hread]
  rfl

/-- A reading that ends early is strict, and there is a declaration with a name that ends it. -/
theorem of_outcome_eq_error {strict : Bool} {failure : Failure}
    (h : (outcome marker strict identifier lines).1 = .error failure) :
    strict = true ∧ ∃ p ∈ documented marker lines, ∃ name,
      functionName? (trimmed p.line) = some name ∧
        failure = .block (.badArguments name "") true := by
  cases hfind : (documented marker lines).find? (·.IsFaulty marker) with
  | none =>
    rw [fst_outcome, parse_of_find?_eq_none hfind, parse_false_eq_ok] at h
    cases h
  | some p =>
    cases strict with
    | false =>
      rw [fst_outcome, parse_false_eq_ok] at h
      cases h
    | true =>
      obtain ⟨name, hname, -, houtcome⟩ := outcome_of_find?_eq_some hfind identifier
      rw [houtcome] at h
      cases h
      exact ⟨rfl, p, List.mem_of_find?_eq_some hfind, name, hname, rfl⟩

/-- **Strict mode stops at the first faulty declaration**, and reads a unit without one as lenient mode
does.  The failure has the words of the diagnostic that lenient mode gives in its place.  In either
mode only a declaration with a name can end the reading. -/
theorem outcome_strict (marker identifier : String) (lines : List String) :
    ∃ r, (outcome marker false identifier lines).1 = .ok r ∧
      r.diagnostics = (contributions marker identifier lines).filterMap Sum.getRight? ∧
      (match (documented marker lines).find? (·.IsFaulty marker) with
        | none => (outcome marker true identifier lines).1 = .ok r
        | some p => ∃ name, functionName? (trimmed p.line) = some name ∧
            (outcome marker true identifier lines).1 =
              .error (.block (.badArguments name "") true) ∧
            contribution identifier (p.reading marker identifier) =
              .inr (identifier ++ ": " ++ (Failure.block (.badArguments name "") true).message)) ∧
      ∀ strict failure, (outcome marker strict identifier lines).1 = .error failure →
        strict = true ∧ ∃ p ∈ documented marker lines, ∃ name,
          functionName? (trimmed p.line) = some name ∧
            failure = .block (.badArguments name "") true := by
  have hlenient := parse_false_eq_ok marker identifier lines
  refine ⟨_, by rw [fst_outcome, hlenient]; rfl, rfl, ?_, fun _ _ => of_outcome_eq_error⟩
  cases hfind : (documented marker lines).find? (·.IsFaulty marker) with
  | none =>
    rw [fst_outcome, parse_of_find?_eq_none hfind, hlenient]
    rfl
  | some p =>
    obtain ⟨name, hname, hread, houtcome⟩ := outcome_of_find?_eq_some hfind identifier
    refine ⟨name, hname, houtcome, ?_⟩
    rw [hread]
    rfl

/-- The first faulty declaration of a unit comes here after one without a name, whose block has the
bare tag too. -/
theorem outcome_strict_far :
    ∃ lines, (documented "--" lines).map (·.line) = [" function (x)", "function Far (x)"] ∧
      (∃ r, (outcome "--" false "unit" lines).1 = .ok r) ∧
      (outcome "--" true "unit" lines).1 = .error (.block (.badArguments "Far" "") true) ∧
      ∃ p ∈ documented "--" lines, functionName? (trimmed p.line) = some "Far" := by
  have hlines : documented "--" ["--@args", " function (x)", "-- @args \t", "function Far (x)"] =
      [⟨["--@args"], " function (x)"⟩,
        ⟨["--@args", " function (x)", "-- @args \t"], "function Far (x)"⟩] := by decide +kernel
  have hfind : (documented "--" ["--@args", " function (x)", "-- @args \t", "function Far (x)"]).find?
      (·.IsFaulty "--") =
        some ⟨["--@args", " function (x)", "-- @args \t"], "function Far (x)"⟩ := by decide +kernel
  have hfar : functionName? (trimmed "function Far (x)") = some "Far" := by decide +kernel
  obtain ⟨r, hr, -, hmatch, herror⟩ :=
    outcome_strict "--" "unit" ["--@args", " function (x)", "-- @args \t", "function Far (x)"]
  rw [hfind] at hmatch
  obtain ⟨name, hname, hstrict, -⟩ := hmatch
  obtain rfl : "Far" = name := Option.some.inj (hfar.symm.trans hname)
  obtain ⟨-, p, hp, name, hname, hfailure⟩ := herror true _ hstrict
  cases hfailure
  exact ⟨_, by rw [hlines]; rfl, ⟨r, hr⟩, hstrict, p, hp, hname⟩

end SourceUnit

end ScriptDoc
