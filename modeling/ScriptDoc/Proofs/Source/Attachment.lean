import ScriptDoc.Proofs.Text.Blank
import ScriptDoc.Source.Unit

/-!
# Doc blocks and their declarations

A unit is read in one pass that holds back the doc lines it has met.  Seen from the whole unit, a
declaration is documented if the line directly above it is a doc line, and its block is the longest
run of doc lines that ends there, whatever stands further up.

* `IsDocLine`, `IsDeclaration`, the two kinds of lines that matter;
* `PlacedLine`, a line with all lines above it, and its `block`;
* `documented`, the documented declarations of a unit;
* `SourceUnit.attachedAfter_step`: the doc lines held back are at every line the block above it;
* `SourceUnit.attached_eq`: the pass finds the documented declarations, with the same blocks;
* `SourceUnit.parse_lenient`: each of them gives one function or one diagnostic, and no other line
  gives anything.
-/

namespace ScriptDoc

open ScriptDoc.Text

/-! ### Lines -/

/-- A doc line starts with the marker. -/
def IsDocLine (marker line : String) : Prop := marker.toList <+: (chomp line).toList

instance (marker line : String) : Decidable (IsDocLine marker line) :=
  inferInstanceAs (Decidable (_ <+: _))

/-- A declaration is no doc line and starts with the word `function`, blanks apart. -/
def IsDeclaration (marker line : String) : Prop :=
  ¬ IsDocLine marker line ∧ "function".toList <+: (trimmed line).toList

instance (marker line : String) : Decidable (IsDeclaration marker line) :=
  inferInstanceAs (Decidable (_ ∧ _))

/-- What a doc line says: the text after the marker, without blanks around it. -/
def docText (marker line : String) : String :=
  trimmed (String.ofList ((chomp line).toList.drop marker.toList.length))

section Kinds

variable {marker line : String}

theorem kind_of_isDocLine (h : IsDocLine marker line) :
    LineKind.of marker line = .doc (docText marker line) := by
  obtain ⟨rest, hrest⟩ := h
  have hdrop : (chomp line).toList.drop marker.toList.length = rest := by
    rw [← hrest, List.drop_left]
  simp only [LineKind.of, List.isPrefixOf?_eq_some_iff_append_eq.2 hrest, docText, hdrop, trimmed,
    String.toList_ofList]

/-- A line that does not start with the marker is judged by its trimmed text alone. -/
theorem kind_of_not_isDocLine (h : ¬ IsDocLine marker line) :
    LineKind.of marker line =
      if "function".toList <+: (trimmed line).toList then .declaration (trimmed line)
      else .other := by
  have hnone : marker.toList.isPrefixOf? (chomp line).toList = none := by
    rw [Option.eq_none_iff_forall_not_mem]
    intro rest hrest
    exact h ⟨rest, List.isPrefixOf?_eq_some_iff_append_eq.1 hrest⟩
  simp only [LineKind.of, hnone, trimmed_chomp, List.isPrefixOf_iff_prefix]

end Kinds

/-! ### Lines in their places -/

/-- What the doc lines say that end a list of lines: the longest run of them counts. -/
def blockBelow (marker : String) (above : List String) : List String :=
  (above.rtakeWhile fun l => IsDocLine marker l).map (docText marker)

/-- A line of a unit, with the lines above it. -/
structure PlacedLine where
  above : List String
  line : String
  deriving DecidableEq, Repr

namespace PlacedLine

/-- A declaration directly below a doc line. -/
def IsDocumented (marker : String) (p : PlacedLine) : Prop :=
  IsDeclaration marker p.line ∧ ∃ l ∈ p.above.getLast?, IsDocLine marker l

instance (marker : String) (p : PlacedLine) : Decidable (p.IsDocumented marker) :=
  inferInstanceAs (Decidable (_ ∧ _))

/-- The doc block directly above a line. -/
def block (marker : String) (p : PlacedLine) : List String := blockBelow marker p.above

/-- A line read as a declaration with its doc block. -/
def reading (marker identifier : String) (p : PlacedLine) : Except BlockError FunctionRecord :=
  FunctionRecord.ofBlock (trimmed p.line) (p.block marker) (some identifier)

end PlacedLine

/-- The lines of a unit in their places. -/
def placed (lines : List String) : List PlacedLine :=
  lines.mapIdx fun i line => ⟨lines.take i, line⟩

/-- The documented declarations of a unit, in the order of lines. -/
def documented (marker : String) (lines : List String) : List PlacedLine :=
  (placed lines).filter (·.IsDocumented marker)

/-! ### The pass over the lines -/

section Pass

variable {marker line : String}

theorem blockBelow_concat_of_isDocLine (h : IsDocLine marker line) (above : List String) :
    blockBelow marker (above ++ [line]) = blockBelow marker above ++ [docText marker line] := by
  rw [blockBelow, List.rtakeWhile_concat, if_pos (decide_eq_true h), List.map_append, blockBelow]
  rfl

theorem blockBelow_concat_of_not_isDocLine (h : ¬ IsDocLine marker line) (above : List String) :
    blockBelow marker (above ++ [line]) = [] := by
  rw [blockBelow, List.rtakeWhile_concat, if_neg (by simpa using h), List.map_nil]

/-- There is a block exactly below a doc line. -/
theorem blockBelow_eq_nil_iff {above : List String} :
    blockBelow marker above = [] ↔ ¬ ∃ l ∈ above.getLast?, IsDocLine marker l := by
  induction above using List.reverseRecOn with
  | nil => simp [blockBelow]
  | append_singleton above l =>
    by_cases hl : IsDocLine marker l
    · simp [blockBelow_concat_of_isDocLine hl, hl]
    · simp [blockBelow_concat_of_not_isDocLine hl, hl]

end Pass

/-- The lines below `above`, in their places. -/
def placedBelow (above lines : List String) : List PlacedLine :=
  lines.mapIdx fun i line => ⟨above ++ lines.take i, line⟩

theorem placedBelow_nil (lines : List String) : placedBelow [] lines = placed lines := rfl

theorem placedBelow_cons (above : List String) (line : String) (lines : List String) :
    placedBelow above (line :: lines) = ⟨above, line⟩ :: placedBelow (above ++ [line]) lines := by
  simp [placedBelow, List.mapIdx_cons]

theorem placedBelow_append (above as bs : List String) :
    placedBelow above (as ++ bs) = placedBelow above as ++ placedBelow (above ++ as) bs := by
  induction as generalizing above with
  | nil => simp [placedBelow]
  | cons line as ih => simp [placedBelow_cons, ih]

theorem placed_concat (lines : List String) (line : String) :
    placed (lines ++ [line]) = placed lines ++ [⟨lines, line⟩] := by
  rw [← placedBelow_nil, placedBelow_append, placedBelow_cons, placedBelow_nil, List.nil_append]
  rfl

theorem map_line_placedBelow (above lines : List String) :
    (placedBelow above lines).map (·.line) = lines := by
  induction lines generalizing above with
  | nil => rfl
  | cons line lines ih => rw [placedBelow_cons, List.map_cons, ih]

theorem line_mem_of_mem_placedBelow {above lines : List String} {p : PlacedLine}
    (h : p ∈ placedBelow above lines) : p.line ∈ lines :=
  map_line_placedBelow above lines ▸ List.mem_map_of_mem h

theorem prefix_above_of_mem_placedBelow {above lines : List String} {p : PlacedLine}
    (h : p ∈ placedBelow above lines) : above <+: p.above := by
  obtain ⟨i, hi, rfl⟩ := List.mem_mapIdx.1 h
  exact List.prefix_append _ _

namespace SourceUnit

/-- A placed declaration with its doc block. -/
def attachedAt (marker : String) (p : PlacedLine) : Attached := ⟨trimmed p.line, p.block marker⟩

/-- One line of the pass. The doc lines held back become those directly above the next line, and the
line itself is found if it is documented. -/
theorem attachedAfter_step (marker : String) (above : List String) (line : String)
    (kinds : List LineKind) :
    attachedAfter (blockBelow marker above) (LineKind.of marker line :: kinds) =
      (if PlacedLine.IsDocumented marker ⟨above, line⟩ then [attachedAt marker ⟨above, line⟩]
        else []) ++
      attachedAfter (blockBelow marker (above ++ [line])) kinds := by
  by_cases hdoc : IsDocLine marker line
  · have hplace : ¬ PlacedLine.IsDocumented marker ⟨above, line⟩ := fun h => h.1.1 hdoc
    rw [kind_of_isDocLine hdoc, attachedAfter, ← blockBelow_concat_of_isDocLine hdoc,
      if_neg hplace, List.nil_append]
  · rw [kind_of_not_isDocLine hdoc, blockBelow_concat_of_not_isDocLine hdoc]
    by_cases hword : "function".toList <+: (trimmed line).toList
    · rw [if_pos hword, attachedAfter]
      by_cases hblock : blockBelow marker above = []
      · have hplace : ¬ PlacedLine.IsDocumented marker ⟨above, line⟩ := fun h =>
          blockBelow_eq_nil_iff.1 hblock h.2
        rw [if_pos (List.isEmpty_iff.2 hblock), if_neg hplace, List.nil_append]
      · have hplace : PlacedLine.IsDocumented marker ⟨above, line⟩ :=
          ⟨⟨hdoc, hword⟩, not_not.1 (mt blockBelow_eq_nil_iff.2 hblock)⟩
        rw [if_neg (mt List.isEmpty_iff.1 hblock), if_pos hplace]
        rfl
    · have hplace : ¬ PlacedLine.IsDocumented marker ⟨above, line⟩ := fun h => hword h.1.2
      rw [if_neg hword, attachedAfter, if_neg hplace, List.nil_append]

/-- The pass finds the declarations that are documented by their place. -/
theorem attachedAfter_eq (marker : String) (above lines : List String) :
    attachedAfter (blockBelow marker above) (lines.map (LineKind.of marker)) =
      ((placedBelow above lines).filter (·.IsDocumented marker)).map (attachedAt marker) := by
  induction lines generalizing above with
  | nil => rfl
  | cons line lines ih =>
    rw [List.map_cons, attachedAfter_step, ih, placedBelow_cons, List.filter_cons]
    by_cases hplace : PlacedLine.IsDocumented marker ⟨above, line⟩
    · rw [if_pos hplace, if_pos (decide_eq_true hplace)]
      rfl
    · rw [if_neg hplace, if_neg (by simpa using hplace), List.nil_append]

/-- The declarations that the pass finds are the documented ones. -/
theorem attached_eq (marker : String) (lines : List String) :
    attached marker lines = (documented marker lines).map (attachedAt marker) := by
  rw [attached, documented, ← placedBelow_nil, ← attachedAfter_eq]
  rfl

example : (documented "--" ["--a", "", "-- b", "--c\r\n", " function f()", "function g()"]).map
    (attachedAt "--") = [⟨"function f()", ["b", "c"]⟩] := by decide +kernel

/-! ### What the declarations give -/

/-- What a reading adds to its unit: a function, or a diagnostic. -/
def contribution (identifier : String) :
    Except BlockError FunctionRecord → FunctionRecord ⊕ String
  | .ok f => .inl f
  | .error e => .inr (identifier ++ ": " ++ e.message)

/-- What the documented declarations of a unit add to it, in the order of lines. -/
def contributions (marker identifier : String) (lines : List String) :
    List (FunctionRecord ⊕ String) :=
  (documented marker lines).map fun p => contribution identifier (p.reading marker identifier)

theorem map_read_attached (marker identifier : String) (lines : List String) :
    (attached marker lines).map (read identifier) =
      (documented marker lines).map (·.reading marker identifier) := by
  simp only [attached_eq, List.map_map, Function.comp_def, read, attachedAt, PlacedLine.reading]

theorem functionsOf_eq (identifier : String)
    (outcomes : List (Except BlockError FunctionRecord)) :
    functionsOf outcomes = (outcomes.map (contribution identifier)).filterMap Sum.getLeft? := by
  induction outcomes with
  | nil => rfl
  | cons outcome outcomes ih =>
    cases outcome with
    | ok f => exact congrArg (f :: ·) ih
    | error e => exact ih

theorem map_diagnostic_errorsOf (identifier : String)
    (outcomes : List (Except BlockError FunctionRecord)) :
    (errorsOf outcomes).map (diagnostic identifier) =
      (outcomes.map (contribution identifier)).filterMap Sum.getRight? := by
  induction outcomes with
  | nil => rfl
  | cons outcome outcomes ih =>
    cases outcome with
    | ok f => exact ih
    | error e => exact congrArg (diagnostic identifier e :: ·) ih

/-- Where no error is fatal, all outcomes stay. -/
theorem untilFatal_of_forall {strict : Bool} {outcomes : List (Except BlockError FunctionRecord)}
    (h : ∀ e, .error e ∈ outcomes → isFatal strict e = false) :
    untilFatal strict outcomes = (outcomes, none) := by
  induction outcomes with
  | nil => rfl
  | cons outcome outcomes ih =>
    have ih := ih fun e he => h e (List.mem_cons_of_mem outcome he)
    cases outcome with
    | ok f => rw [untilFatal, ih]
    | error e => simp [untilFatal, h e List.mem_cons_self, ih]

/-- A unit without a fatal error is made of what its documented declarations add to it. -/
theorem parse_of_forall {marker identifier : String} {strict : Bool} {lines : List String}
    (h : ∀ p ∈ documented marker lines, ∀ e, p.reading marker identifier = .error e →
      isFatal strict e = false) :
    (parse marker strict identifier lines).1 =
      .ok ⟨identifier, (contributions marker identifier lines).filterMap Sum.getLeft?,
        (contributions marker identifier lines).filterMap Sum.getRight?⟩ := by
  have hreadings : ∀ e, .error e ∈ (documented marker lines).map (·.reading marker identifier) →
      isFatal strict e = false := by
    intro e he
    obtain ⟨p, hp, hread⟩ := List.mem_map.1 he
    exact h p hp e hread
  simp only [parse, map_read_attached, untilFatal_of_forall hreadings, functionsOf_eq identifier,
    map_diagnostic_errorsOf, List.map_map, contributions, Function.comp_def]

theorem isFatal_false (e : BlockError) : isFatal false e = false := by
  cases e <;> rfl

theorem parse_false_eq_ok (marker identifier : String) (lines : List String) :
    (parse marker false identifier lines).1 =
      .ok ⟨identifier, (contributions marker identifier lines).filterMap Sum.getLeft?,
        (contributions marker identifier lines).filterMap Sum.getRight?⟩ :=
  parse_of_forall fun _ _ e _ => isFatal_false e

theorem length_getLeft?_add_length_getRight? {α β : Type} (cs : List (α ⊕ β)) :
    (cs.filterMap Sum.getLeft?).length + (cs.filterMap Sum.getRight?).length = cs.length := by
  induction cs with
  | nil => rfl
  | cons c cs ih =>
    cases c with
    | inl a =>
      simp only [List.filterMap_cons, Sum.getLeft?, Sum.getRight?, List.length_cons]
      omega
    | inr b =>
      simp only [List.filterMap_cons, Sum.getLeft?, Sum.getRight?, List.length_cons]
      omega

/-- **A doc block belongs to the declaration directly below it.** In lenient mode every unit is read.
Its functions and diagnostics are those that its documented declarations give, each of them one, in
the order of lines. -/
theorem parse_lenient (marker identifier : String) (lines : List String) :
    ∃ u, (parse marker false identifier lines).1 = .ok u ∧ u.identifier = identifier ∧
      u.functions = (contributions marker identifier lines).filterMap Sum.getLeft? ∧
      u.diagnostics = (contributions marker identifier lines).filterMap Sum.getRight? ∧
      u.functions.length + u.diagnostics.length = (documented marker lines).length := by
  refine ⟨_, parse_false_eq_ok marker identifier lines, rfl, rfl, rfl, ?_⟩
  rw [length_getLeft?_add_length_getRight?, contributions, List.length_map]

end SourceUnit

end ScriptDoc
