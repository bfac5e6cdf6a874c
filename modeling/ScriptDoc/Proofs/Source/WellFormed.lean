import ScriptDoc.Proofs.Source.ArgumentGrammar
import ScriptDoc.Proofs.Source.Directives
import ScriptDoc.Proofs.Source.Strictness

/-!
# Records of a source unit

What a source unit gives is well formed, whatever its lines hold.  Each of the rules comes from one place of
the reading, and is kept by all that follows:

* a piece between two commas, without blanks around it, has no comma and no blank at its ends, so its first
  space divides it into a type and a name (`ArgumentList.wellFormed_of_parameter?`);
* what stands between the first space and the first parenthesis of a declaration is a name
  (`of_functionName?`);
* a directive takes the blanks off what it says, and the lines of a block have none at their ends, so each
  line keeps a record tidy (`DocBlock.step_tidy`), and so does a block (`DocBlock.foldlM_tidy`).

`SourceUnit.parse_wellFormed` puts them together.
-/

namespace ScriptDoc

open ScriptDoc.Text

/-! ### Parameters -/

/-- A parameter whose type is a word without a comma, and whose name has no comma. -/
structure Parameter.WellFormed (p : Parameter) : Prop where
  typeName_ne : p.typeName ≠ ""
  space_notMem : ' ' ∉ p.typeName.toList
  comma_notMem_typeName : ',' ∉ p.typeName.toList
  name_ne : p.name ≠ ""
  comma_notMem_name : ',' ∉ p.name.toList

namespace ArgumentList

theorem comma_notMem_of_mem_splitOn {cs piece : List Char} (h : piece ∈ cs.splitOn ',') :
    ',' ∉ piece := by
  by_cases hcs : ',' ∈ cs
  · obtain ⟨as, bs, rfl, has⟩ := List.eq_append_cons_of_mem hcs
    rw [List.splitOn_append_cons_self_of_not_mem has, List.mem_cons] at h
    rcases h with rfl | h
    · exact has
    · exact comma_notMem_of_mem_splitOn h
  · rw [List.splitOn_eq_singleton hcs, List.mem_singleton] at h
    exact h ▸ hcs
termination_by cs.length
decreasing_by subst_vars; simp; omega

theorem of_mem_entries {part entry : List Char} (h : entry ∈ entries part) :
    IsTrimmed entry ∧ ',' ∉ entry := by
  unfold entries at h
  split at h
  · cases h
  · obtain ⟨piece, hpiece, rfl⟩ := List.mem_map.1 h
    exact ⟨isTrimmed_trim piece, fun hc =>
      comma_notMem_of_mem_splitOn hpiece ((trim_isInfix piece).subset hc)⟩

/-- The first space of an entry divides it into a type and a name, neither of which is empty. -/
theorem wellFormed_of_parameter? {required : Bool} {position : Nat} {entry : List Char} {p : Parameter}
    (hentry : IsTrimmed entry) (hcomma : ',' ∉ entry)
    (h : parameter? required position entry = some p) : p.WellFormed := by
  unfold parameter? at h
  split at h
  · cases h
  next hempty =>
  have hne : entry ≠ [] := by simpa using hempty
  split at h
  · next c name hdrop =>
    cases h
    have hentry_eq : entry.takeWhile (· != ' ') ++ c :: name = entry := by
      rw [← hdrop, List.takeWhile_append_dropWhile]
    have hspace : c = ' ' := by simpa [hdrop] using List.head?_dropWhile_not (· != ' ') entry
    have htype : entry.takeWhile (· != ' ') ≠ [] := by
      -- else the entry would start with the space
      intro hnil
      have hblank := hentry.head c (by rw [← hentry_eq, hnil]; rfl)
      rw [hspace] at hblank
      exact absurd hblank (by decide)
    have hname : name ≠ [] := by
      -- else it would end with the space
      rintro rfl
      have hblank := hentry.last c (by rw [← hentry_eq]; simp)
      rw [hspace] at hblank
      exact absurd hblank (by decide)
    constructor
    · simpa using htype
    · intro hmem
      rw [String.toList_ofList] at hmem
      exact absurd (List.mem_takeWhile_imp hmem) (by decide)
    · intro hmem
      rw [String.toList_ofList] at hmem
      exact hcomma ((List.takeWhile_prefix _).subset hmem)
    · simpa using hname
    · intro hmem
      rw [String.toList_ofList] at hmem
      rw [← hentry_eq] at hcomma
      exact hcomma (List.mem_append_right _ (List.mem_cons_of_mem _ hmem))
  · next hdrop =>
    split at h
    · cases h
      constructor <;> simp
    · cases h
      have hspace : ' ' ∉ entry := fun hmem => by
        simpa using List.dropWhile_eq_nil_iff.1 hdrop ' ' hmem
      have hdigits : ',' ∉ (toString position).toList := by
        intro hmem
        rw [Nat.toString_eq_repr, Nat.toList_repr] at hmem
        exact absurd (Nat.isDigit_of_mem_toDigits (by decide) (by decide) hmem) (by decide)
      constructor
      · simpa using hne
      · rwa [String.toList_ofList]
      · rwa [String.toList_ofList]
      · simp
      · simpa using hdigits

theorem wellFormed_of_parse? {text : String} {ps : List Parameter} (h : parse? text = some ps) :
    ∀ p ∈ ps, p.WellFormed := by
  have hparameters {required : Bool} {start : Nat} {part : List Char} :
      ∀ p ∈ parameters required start (entries part), p.WellFormed := by
    intro p hp
    obtain ⟨⟨entry, position⟩, hentry, hp⟩ := List.mem_filterMap.1 hp
    obtain ⟨htrimmed, hcomma⟩ := of_mem_entries (List.fst_mem_of_mem_zipIdx hentry)
    exact wellFormed_of_parameter? htrimmed hcomma hp
  unfold parse? at h
  split at h
  · cases h
  · cases h
    exact List.forall_mem_append.2 ⟨hparameters, hparameters⟩

end ArgumentList

/-! ### Names -/

theorem of_functionName? {declaration name : String} (h : functionName? declaration = some name) :
    name ≠ "" ∧ IsTrimmed name.toList ∧ '(' ∉ name.toList ∧ name.toList <:+: declaration.toList := by
  unfold functionName? at h
  simp only at h
  split at h
  · cases h
  split at h
  · cases h
  next hempty =>
  cases h
  have hhead : ((declaration.toList.takeWhile (· != '(')).dropWhile (· != ' ')).drop 1 <:+:
      declaration.toList.takeWhile (· != '(') :=
    ((List.drop_suffix 1 _).trans (List.dropWhile_suffix _)).isInfix
  have hname := (trim_isInfix _).trans hhead
  rw [String.toList_ofList]
  refine ⟨by simpa using hempty, isTrimmed_trim _, ?_, hname.trans (List.takeWhile_prefix _).isInfix⟩
  intro hmem
  exact absurd (List.mem_takeWhile_imp (hname.subset hmem)) (by decide)

/-! ### Blocks -/

/-- What is said in a directive, or a plain line as it is. -/
def Directive.text : Directive → String
  | .shortDescription t => t
  | .extendedDescription t => t
  | .result t => t
  | .arguments t => t
  | .plain t => t

/-- A record in which no text has blanks at its ends, and which holds nothing that a block cannot say. -/
structure FunctionRecord.IsTidy (origin : Option String) (f : FunctionRecord) : Prop where
  origin_eq : f.origin = origin
  groups_eq : f.groups = []
  usage_eq : f.usage = none
  returnDescription_eq : f.returnDescription = none
  shortDescription : ∀ t ∈ f.shortDescription, IsTrimmed t.toList
  returnType : ∀ t ∈ f.returnType, IsTrimmed t.toList
  extendedDescription : ∀ t ∈ f.extendedDescription, IsTrimmed t.toList
  parameters : ∀ p ∈ f.parameters, p.WellFormed

namespace DocBlock

theorem Tag.isTrimmed_content (t : Tag) (line : String) : IsTrimmed (t.content line).toList := by
  rw [Tag.content, toList_trimmed]
  exact isTrimmed_trim _

/-- A directive of a line without blanks at its ends has none either. -/
theorem isTrimmed_text_ofLine {line : String} (h : IsTrimmed line.toList) :
    IsTrimmed (Directive.ofLine line).text.toList := by
  rw [ofLine_eq]
  cases tag? line with
  | none => exact h
  | some t => cases t <;> exact Tag.isTrimmed_content _ line

variable {origin : Option String}

/-- One more line keeps a record tidy. -/
theorem step_tidy {d e : Draft} {x : Directive} (hx : IsTrimmed x.text.toList) (h : step d x = .ok e)
    (hd : d.record.IsTidy origin) : e.record.IsTidy origin ∧ e.record.name = d.record.name := by
  cases x with
  | shortDescription t =>
    cases h
    refine ⟨{ hd with shortDescription := ?_ }, rfl⟩
    rintro s ⟨⟩
    exact hx
  | extendedDescription t =>
    cases h
    refine ⟨{ hd with extendedDescription := ?_ }, rfl⟩
    intro s hs
    rcases List.mem_append.1 hs with hs | hs
    · exact hd.extendedDescription s hs
    · split at hs
      · cases hs
      · rw [List.mem_singleton.1 hs]
        exact hx
  | result t =>
    cases h
    refine ⟨{ hd with returnType := ?_ }, rfl⟩
    rintro s ⟨⟩
    exact hx
  | arguments t =>
    simp only [step] at h
    split at h
    · next ps hps =>
      cases h
      refine ⟨{ hd with parameters := ?_ }, rfl⟩
      intro p hp
      rcases List.mem_append.1 hp with hp | hp
      · exact hd.parameters p hp
      · exact ArgumentList.wellFormed_of_parse? hps p hp
    · cases h
  | plain t =>
    simp only [step] at h
    split at h
    · cases h
      refine ⟨{ hd with extendedDescription := ?_ }, rfl⟩
      intro s hs
      rcases List.mem_append.1 hs with hs | hs
      · exact hd.extendedDescription s hs
      · rw [List.mem_singleton.1 hs]
        exact hx
    · cases h
      exact ⟨hd, rfl⟩

/-- A block keeps a record tidy. -/
theorem foldlM_tidy {block : List String} (hblock : ∀ line ∈ block, IsTrimmed line.toList)
    {d e : Draft} (h : block.foldlM (fun d line => step d (Directive.ofLine line)) d = .ok e)
    (hd : d.record.IsTidy origin) : e.record.IsTidy origin ∧ e.record.name = d.record.name := by
  induction block generalizing d with
  | nil =>
    cases h
    exact ⟨hd, rfl⟩
  | cons line block ih =>
    rw [List.foldlM_cons] at h
    cases hstep : step d (Directive.ofLine line) with
    | error _ =>
      rw [hstep] at h
      cases h
    | ok u =>
      rw [hstep] at h
      obtain ⟨hu, hname⟩ := step_tidy (isTrimmed_text_ofLine (hblock line List.mem_cons_self)) hstep hd
      obtain ⟨he, hrest⟩ := ih (fun l hl => hblock l (List.mem_cons_of_mem _ hl)) h hu
      exact ⟨he, hrest.trans hname⟩

end DocBlock

theorem FunctionRecord.isTidy_ofBlock {declaration : String} {block : List String}
    {origin : Option String} {f : FunctionRecord} (hblock : ∀ line ∈ block, IsTrimmed line.toList)
    (h : FunctionRecord.ofBlock declaration block origin = .ok f) :
    f.IsTidy origin ∧ functionName? declaration = some f.name := by
  unfold FunctionRecord.ofBlock at h
  split at h
  · cases h
  next name hname =>
  have hd : FunctionRecord.IsTidy origin { name, origin } :=
    ⟨rfl, rfl, rfl, rfl, nofun, nofun, nofun, nofun⟩
  cases hfold : block.foldlM (fun d line => DocBlock.step d (Directive.ofLine line))
      (⟨{ name, origin }, false⟩ : DocBlock.Draft) with
  | error e =>
    rw [hfold] at h
    cases h
  | ok e =>
    rw [hfold] at h
    cases h
    obtain ⟨htidy, hkept⟩ := DocBlock.foldlM_tidy hblock hfold hd
    exact ⟨htidy, by rw [hname, hkept]⟩

/-! ### Units -/

/-- A record that a unit can give: its name stands in a declaration, and the rest is tidy. -/
structure FunctionRecord.WellFormed (marker identifier : String) (lines : List String)
    (f : FunctionRecord) : Prop extends f.IsTidy (some identifier) where
  name_ne : f.name ≠ ""
  name_trimmed : IsTrimmed f.name.toList
  parenthesis_notMem_name : '(' ∉ f.name.toList
  declared : ∃ line ∈ lines, IsDeclaration marker line ∧ f.name.toList <:+: line.toList

namespace SourceUnit

theorem untilFatal_isPrefix (strict : Bool) (outcomes : List (Except BlockError FunctionRecord)) :
    (untilFatal strict outcomes).1 <+: outcomes := by
  induction outcomes with
  | nil => exact List.prefix_refl []
  | cons outcome outcomes ih =>
    cases outcome with
    | ok f => exact (List.prefix_cons_inj (.ok f)).2 ih
    | error e =>
      rw [untilFatal]
      split
      · exact List.nil_prefix
      · exact (List.prefix_cons_inj (.error e)).2 ih

/-- Each function of a unit is what one of its documented declarations is read as. -/
theorem exists_reading {marker identifier : String} {strict : Bool} {lines : List String}
    {u : UnitResult} (h : (parse marker strict identifier lines).1 = .ok u) {f : FunctionRecord}
    (hf : f ∈ u.functions) : ∃ p ∈ documented marker lines, p.reading marker identifier = .ok f := by
  have hstart := untilFatal_isPrefix strict ((attached marker lines).map (read identifier))
  rw [map_read_attached] at hstart
  simp only [parse, map_read_attached] at h
  split at h
  · cases h
  · cases h
    obtain ⟨outcome, houtcome, hread⟩ := List.mem_filterMap.1 hf
    cases outcome with
    | ok g =>
      cases hread
      exact List.mem_map.1 (hstart.subset houtcome)
    | error e => cases hread

/-- **What a unit gives is well formed.** -/
theorem parse_wellFormed {marker identifier : String} {strict : Bool} {lines : List String}
    {u : UnitResult} (h : (parse marker strict identifier lines).1 = .ok u) :
    ∀ f ∈ u.functions, f.WellFormed marker identifier lines := by
  intro f hf
  obtain ⟨p, hp, hread⟩ := exists_reading h hf
  have hblock : ∀ line ∈ p.block marker, IsTrimmed line.toList := by
    intro line hline
    obtain ⟨s, rfl⟩ := PlacedLine.trimmed_of_mem_block hline
    rw [toList_trimmed]
    exact isTrimmed_trim _
  obtain ⟨htidy, hname⟩ := FunctionRecord.isTidy_ofBlock hblock hread
  obtain ⟨hne, htrimmed, hparenthesis, hinfix⟩ := of_functionName? hname
  obtain ⟨hplaced, hdocumented⟩ := List.mem_filter.1 hp
  have hdeclaration : p.IsDocumented marker := by simpa using hdocumented
  rw [toList_trimmed] at hinfix
  exact { htidy with
    name_ne := hne
    name_trimmed := htrimmed
    parenthesis_notMem_name := hparenthesis
    declared := ⟨p.line, line_mem_of_mem_placedBelow (placedBelow_nil lines ▸ hplaced), hdeclaration.1,
      hinfix.trans (trim_isInfix _)⟩ }

/-- A unit with blanks of many kinds, with brackets and with commas in odd places. -/
theorem parse_wellFormed_blanks :
    let lines := ["--?@shortdesc \t Turns it.\u3000", "--? @extdesc", "--?\u2003More [,] ", "--?",
      "--? @args ,Real  x, a\tb ,[[,Unit u],...", "--?@result\n", "\tfunction  Turn : it (x, y(z))\r\n"]
    let f : FunctionRecord :=
      { name := "Turn : it", shortDescription := some "Turns it.", extendedDescription := ["More [,]", ""]
        returnType := some "", origin := some "unit"
        parameters := [⟨" x", "Real", none, true⟩, ⟨"arg3", "a\tb", none, true⟩, ⟨"arg4", "[", none, false⟩,
          ⟨"u]", "Unit", none, false⟩, ⟨"...", "Any", none, false⟩] }
    (parse "--?" true "unit" lines).1 = .ok ⟨"unit", [f], []⟩ ∧ f.WellFormed "--?" "unit" lines := by
  intro lines f
  have hparse : (parse "--?" true "unit" lines).1 = .ok ⟨"unit", [f], []⟩ := by
    decide +kernel
  exact ⟨hparse, parse_wellFormed hparse f List.mem_cons_self⟩

end SourceUnit

end ScriptDoc
