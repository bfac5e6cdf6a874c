import ScriptDoc.Proofs.Source.Attachment

/-!
# What the directives of a block say

A block is read line by line, with a flag for plain lines that continue the extended description.  Seen from
the whole block, each part of the record comes from the lines of one tag, wherever these stand, and a plain
line counts if the last tag above it is that of the extended description.

* `Tag`, the four tags, and `tag?`, the one that a line starts with;
* `contents`, what the lines of one tag say;
* `nearestTag?`, the last tag above a line, and `extension`, what a line adds to the extended description;
* `DocBlock.step_draft`: the flag says at each line which tag is the nearest above it;
* `FunctionRecord.ofBlock_eq`: the whole record.
-/

namespace ScriptDoc

open ScriptDoc.Text

namespace DocBlock

/-! ### Tags -/

/-- The tags of a doc block. -/
inductive Tag where
  | shortDescription
  | extendedDescription
  | result
  | arguments
  deriving DecidableEq, Repr

namespace Tag

/-- A tag as it is written. -/
def text : Tag → String
  | .shortDescription => "@shortdesc"
  | .extendedDescription => "@extdesc"
  | .result => "@result"
  | .arguments => "@args"

/-- The tags in the order in which a line is tried. -/
def all : List Tag := [.shortDescription, .extendedDescription, .result, .arguments]

/-- What follows a tag in its line, without blanks around it. -/
def content (t : Tag) (line : String) : String :=
  trimmed (String.ofList (line.toList.drop t.text.toList.length))

/-- The directive of a tag. -/
def directive : Tag → String → Directive
  | .shortDescription => .shortDescription
  | .extendedDescription => .extendedDescription
  | .result => .result
  | .arguments => .arguments

/-- Whether a line starts with a tag. -/
def Opens (t : Tag) (line : String) : Prop := t.text.toList <+: line.toList

instance (t : Tag) (line : String) : Decidable (t.Opens line) := inferInstanceAs (Decidable (_ <+: _))

theorem content?_text (t : Tag) (line : String) :
    Directive.content? t.text line = if t.Opens line then some (t.content line) else none := by
  split
  · next h =>
    obtain ⟨rest, hrest⟩ := h
    have hdrop : line.toList.drop t.text.toList.length = rest := by rw [← hrest, List.drop_left]
    rw [Directive.content?, List.isPrefixOf?_eq_some_iff_append_eq.2 hrest, content, hdrop, trimmed,
      String.toList_ofList]
    rfl
  · next h =>
    have hnone : t.text.toList.isPrefixOf? line.toList = none := by
      rw [Option.eq_none_iff_forall_not_mem]
      intro rest hrest
      exact h ⟨rest, List.isPrefixOf?_eq_some_iff_append_eq.1 hrest⟩
    rw [Directive.content?, hnone]
    rfl

end Tag

/-- The first tag that a line starts with. -/
def tag? (line : String) : Option Tag := Tag.all.find? (·.Opens line)

/-- A line is a directive of its tag, or else a plain line. -/
theorem ofLine_eq (line : String) :
    Directive.ofLine line = (tag? line).elim (.plain line) fun t => t.directive (t.content line) := by
  have hshort : Directive.content? "@shortdesc" line = _ := Tag.content?_text .shortDescription line
  have hextended : Directive.content? "@extdesc" line = _ := Tag.content?_text .extendedDescription line
  have hresult : Directive.content? "@result" line = _ := Tag.content?_text .result line
  have hargs : Directive.content? "@args" line = _ := Tag.content?_text .arguments line
  rw [Directive.ofLine, hshort, hextended, hresult, hargs, tag?, Tag.all]
  by_cases h₁ : Tag.shortDescription.Opens line
  · simp [h₁, Tag.directive]
  by_cases h₂ : Tag.extendedDescription.Opens line
  · simp [h₁, h₂, Tag.directive]
  by_cases h₃ : Tag.result.Opens line
  · simp [h₁, h₂, h₃, Tag.directive]
  by_cases h₄ : Tag.arguments.Opens line
  · simp [h₁, h₂, h₃, h₄, Tag.directive]
  simp [h₁, h₂, h₃, h₄]

/-! ### The lines of a block -/

/-- What the lines of one tag say, in their order. -/
def contents (t : Tag) (block : List String) : List String :=
  (block.filter fun line => tag? line = some t).map t.content

/-- The last tag among some lines. -/
def nearestTag? (above : List String) : Option Tag := (above.filterMap tag?).getLast?

/-- What a line adds to the extended description: what it says if it has the tag of that description, unless
this is blank, or the line itself if it has no tag and the nearest tag above it is that one. -/
def extension (p : PlacedLine) : List String :=
  match tag? p.line with
  | some .extendedDescription => [Tag.extendedDescription.content p.line].filter (· ≠ "")
  | some _ => []
  | none => if nearestTag? p.above = some .extendedDescription then [p.line] else []

/-- The extended description that a block gives. -/
def extendedDescription (block : List String) : List String := (placed block).flatMap extension

theorem contents_append (t : Tag) (as bs : List String) :
    contents t (as ++ bs) = contents t as ++ contents t bs := by
  simp [contents]

theorem contents_singleton (t : Tag) (line : String) :
    contents t [line] = if tag? line = some t then [t.content line] else [] := by
  by_cases h : tag? line = some t <;> simp [contents, h]

theorem nearestTag?_concat (block : List String) (line : String) :
    nearestTag? (block ++ [line]) = (tag? line).or (nearestTag? block) := by
  cases h : tag? line <;> simp [nearestTag?, h]

theorem extendedDescription_concat (block : List String) (line : String) :
    extendedDescription (block ++ [line]) = extendedDescription block ++ extension ⟨block, line⟩ := by
  simp [extendedDescription, placed_concat]

/-! ### Reading a block -/

/-- An argument directive that is not blank has a reading. -/
theorem exists_parse?_content {t : Tag} {line : String} (h : t.content line ≠ "") :
    ∃ ps, ArgumentList.parse? (t.content line) = some ps := by
  cases hp : ArgumentList.parse? (t.content line) with
  | some ps => exact ⟨ps, rfl⟩
  | none =>
    have hblank := (ArgumentList.parse?_eq_none_iff _).1 hp
    rw [Tag.content, toList_trimmed] at hblank
    exact absurd (trimmed_of_allBlank (List.all_eq_true.2 (isBlank_of_forall_mem_trim hblank))) h

/-- So all of them have, if none is blank. -/
theorem exists_mapM_parse? {block : List String} (h : "" ∉ contents .arguments block) :
    ∃ lists, (contents .arguments block).mapM ArgumentList.parse? = some lists := by
  induction block with
  | nil => exact ⟨[], rfl⟩
  | cons line block ih =>
    rw [← List.singleton_append, contents_append, List.mem_append, not_or] at h
    obtain ⟨lists, hlists⟩ := ih h.2
    rw [← List.singleton_append, contents_append, contents_singleton]
    split
    · next ht =>
      rw [contents_singleton, if_pos ht, List.mem_singleton] at h
      obtain ⟨ps, hps⟩ := exists_parse?_content (Ne.symm h.1)
      exact ⟨ps :: lists, by simp [hps, hlists]⟩
    · exact ⟨lists, hlists⟩

/-- The record that a block describes, where `lists` are the lists of its argument directives. -/
def described (name : String) (origin : Option String) (block : List String)
    (lists : List (List Parameter)) : FunctionRecord :=
  { name, origin
    shortDescription := (contents .shortDescription block).getLast?
    extendedDescription := extendedDescription block
    parameters := lists.flatten
    returnType := (contents .result block).getLast? }

/-- A record in the making, after the lines of a block. -/
def draft (name : String) (origin : Option String) (block : List String)
    (lists : List (List Parameter)) : Draft :=
  ⟨described name origin block lists, nearestTag? block = some .extendedDescription⟩

/-- One more line. The flag says which tag is the nearest above it. -/
theorem step_draft {name : String} {origin : Option String} {block : List String} {line : String}
    {lists more : List (List Parameter)}
    (h : (contents .arguments [line]).mapM ArgumentList.parse? = some more) :
    step (draft name origin block lists) (Directive.ofLine line) =
      .ok (draft name origin (block ++ [line]) (lists ++ more)) := by
  rw [contents_singleton] at h
  rw [ofLine_eq, draft, draft, described, described, contents_append, contents_append,
    contents_singleton, contents_singleton, nearestTag?_concat, extendedDescription_concat, extension]
  cases ht : tag? line with
  | none =>
    obtain rfl : [] = more := by simpa [ht] using h
    by_cases hnearest : nearestTag? block = some .extendedDescription
    · simp [step, hnearest]
    · simp [step, hnearest]
  | some t =>
    cases t with
    | shortDescription =>
      obtain rfl : [] = more := by simpa [ht] using h
      simp [step, Tag.directive]
    | extendedDescription =>
      obtain rfl : [] = more := by simpa [ht] using h
      by_cases hblank : Tag.extendedDescription.content line = ""
      · simp [step, Tag.directive, hblank]
      · simp [step, Tag.directive, hblank]
    | result =>
      obtain rfl : [] = more := by simpa [ht] using h
      simp [step, Tag.directive]
    | arguments =>
      obtain ⟨ps, hps, rfl⟩ : ∃ ps, ArgumentList.parse? (Tag.arguments.content line) = some ps ∧
          [ps] = more := by simpa [ht, Option.bind_eq_some_iff] using h
      simp [step, Tag.directive, hps]

/-- A whole block. -/
theorem foldlM_step (name : String) (origin : Option String) {block : List String}
    {lists : List (List Parameter)}
    (h : (contents .arguments block).mapM ArgumentList.parse? = some lists) :
    block.foldlM (fun d line => step d (Directive.ofLine line)) (⟨{ name, origin }, false⟩ : Draft) =
      .ok (draft name origin block lists) := by
  -- each line is judged by those above it, so the induction is from the end
  induction block using List.reverseRecOn generalizing lists with
  | nil =>
    cases h
    rfl
  | append_singleton block line ih =>
    rw [contents_append, List.mapM_append] at h
    obtain ⟨above, habove, h⟩ := Option.bind_eq_some_iff.1 h
    obtain ⟨more, hmore, h⟩ := Option.bind_eq_some_iff.1 h
    cases h
    rw [List.foldlM_append, ih habove]
    show ([line].foldlM (fun d line => step d (Directive.ofLine line)) (draft name origin block above)) = _
    rw [List.foldlM_cons, step_draft hmore]
    rfl

end DocBlock

open DocBlock

/-- **The record of a block.** If no argument directive of it is blank, a block has a record: the last line
of a tag counts for the short description and for the result, all of them for the parameters, and the plain
lines that continue the extended description stand among what its lines say. -/
theorem FunctionRecord.ofBlock_eq {declaration name : String}
    (hname : functionName? declaration = some name) {block : List String}
    (hargs : "" ∉ contents .arguments block) (origin : Option String) :
    ∃ lists, (contents .arguments block).mapM ArgumentList.parse? = some lists ∧
      FunctionRecord.ofBlock declaration block origin =
        .ok { name, origin
              shortDescription := (contents .shortDescription block).getLast?
              extendedDescription := (placed block).flatMap extension
              parameters := lists.flatten
              returnType := (contents .result block).getLast? } := by
  obtain ⟨lists, hlists⟩ := exists_mapM_parse? hargs
  refine ⟨lists, hlists, ?_⟩
  rw [FunctionRecord.ofBlock, hname]
  simp only [foldlM_step name origin hlists]
  rfl

/-- Directives in any order, and plain lines before, between and after them. -/
theorem FunctionRecord.ofBlock_eq_mixed :
    let block := ["loose", "@args Real x", "@extdesc  ", "", " kept ", "@shortdesc old", "dropped",
      "@extdesc more ", "@result", "@args[Real]", "@shortdescnew "]
    functionName? "function Run (x)" = some "Run" ∧ "" ∉ contents .arguments block ∧
      FunctionRecord.ofBlock "function Run (x)" block none =
        .ok { name := "Run"
              shortDescription := some "new"
              extendedDescription := ["", " kept ", "more"]
              parameters := [{ name := "x", typeName := "Real" },
                { name := "arg1", typeName := "Real", required := false }]
              returnType := some "" } := by
  intro block
  have hname : functionName? "function Run (x)" = some "Run" := by decide
  have hargs : "" ∉ contents .arguments block := by decide +kernel
  have hlists : (contents .arguments block).mapM ArgumentList.parse? =
      some [[{ name := "x", typeName := "Real" }],
        [{ name := "arg1", typeName := "Real", required := false }]] := by decide +kernel
  obtain ⟨lists, hread, hrecord⟩ := FunctionRecord.ofBlock_eq hname hargs none
  obtain rfl := Option.some.inj (hlists.symm.trans hread)
  refine ⟨hname, hargs, hrecord.trans ?_⟩
  decide +kernel

end ScriptDoc
