import ScriptDoc.Failure
import ScriptDoc.Proofs.Dump.Concatenation
import ScriptDoc.Proofs.Source.Attachment

/-!
# The three streams of a dump

A dump is read in one pass that remembers the open section.  Seen from the whole dump, a line belongs to the
section of the nearest marker above it, and the lines of each section form a stream of their own, whatever
stands between them.

* `opened?`, the section that a line opens, and `sectionBelow`, the one that is open below some lines;
* `StraysAt`, a line above all markers that is not blank;
* `stream`, the lines of one section;
* `contentsFrom_eq`: the open section of the pass is at every line that of the nearest marker above it;
* `regrouped`, the lines of a dump section by section;
* `parse_streams`: a dump without a stray line is the document of its streams, and so regrouping it makes
  no difference.
-/

namespace ScriptDoc

open ScriptDoc.Text

namespace Dump

/-! ### Markers -/

/-- The marker of a section in small letters. -/
def Section.marker : Section → String
  | .functions => "[scardoc:functions]"
  | .globals => "[scardoc:globals]"
  | .unknowns => "[scardoc:unknowns]"

/-- The sections. -/
def Section.all : List Section := [.functions, .globals, .unknowns]

/-- The section that a line opens, if it is a marker in any letter case, blanks apart. -/
def opened? (line : String) : Option Section :=
  Section.all.find? fun s => lowered (trimmed line) = s.marker

/-- The section of the last marker among some lines. -/
def sectionBelow (above : List String) : Option Section := (above.filterMap opened?).getLast?

/-- A line that is neither blank nor a marker. -/
def IsContent (line : String) : Prop := allBlank line = false ∧ opened? line = none

instance (line : String) : Decidable (IsContent line) := inferInstanceAs (Decidable (_ ∧ _))

theorem isEmpty_trimmed_chomp (line : String) : (trimmed (chomp line)).isEmpty = allBlank line := by
  rw [trimmed_chomp, Bool.eq_iff_iff, String.isEmpty_iff]
  constructor
  · intro h
    have htrim : trim line.toList = [] := by rw [← toList_trimmed, h]; rfl
    refine List.all_eq_true.2 (isBlank_of_forall_mem_trim ?_)
    simp [htrim]
  · exact trimmed_of_allBlank

theorem marker?_trimmed_chomp (line : String) : marker? (trimmed (chomp line)) = opened? line := by
  rw [trimmed_chomp, opened?, marker?, Section.all]
  generalize lowered (trimmed line) = word
  by_cases h₁ : word = "[scardoc:functions]"
  · simp [h₁, Section.marker]
  by_cases h₂ : word = "[scardoc:globals]"
  · simp [h₂, Section.marker]
  by_cases h₃ : word = "[scardoc:unknowns]"
  · simp [h₃, Section.marker]
  simp [h₁, h₂, h₃, Section.marker]

/-- A blank line is no marker. -/
theorem opened?_of_allBlank {line : String} (h : allBlank line = true) : opened? line = none := by
  rw [opened?, trimmed_of_allBlank h]
  rfl

theorem sectionBelow_concat (above : List String) (line : String) :
    sectionBelow (above ++ [line]) = (opened? line).or (sectionBelow above) := by
  cases h : opened? line <;> simp [sectionBelow, h]

/-! ### The pass over the lines -/

/-- A line with its section, if it is content and stands below a marker. -/
def sectioned? (p : PlacedLine) : Option Line :=
  if IsContent p.line then (sectionBelow p.above).map fun s => ⟨s, chomp p.line⟩ else none

/-- Below a marker no line strays, and the open section is at every line that of the nearest marker. -/
theorem contentsFrom_eq {above : List String} {s : Section} (h : sectionBelow above = some s)
    (number : Nat) (lines : List String) :
    contentsFrom (some s) number lines = .ok ((placedBelow above lines).filterMap sectioned?) := by
  induction lines generalizing above s number with
  | nil => rfl
  | cons line lines ih =>
    rw [placedBelow_cons]
    have hempty := isEmpty_trimmed_chomp line
    have hmarker := marker?_trimmed_chomp line
    have hbelow := sectionBelow_concat above line
    cases hblank : allBlank line with
    | true =>
      rw [opened?_of_allBlank hblank, Option.none_or, h] at hbelow
      rw [contentsFrom_of_blank (hempty.trans hblank), ih hbelow]
      simp [sectioned?, IsContent, hblank]
    | false =>
      have hne : ¬ (trimmed (chomp line)).isEmpty = true := by simp [hempty, hblank]
      cases hopen : opened? line with
      | some t =>
        rw [hopen, Option.some_or] at hbelow
        rw [contentsFrom_of_marker hne (hmarker.trans hopen), ih hbelow]
        simp [sectioned?, IsContent, hopen]
      | none =>
        rw [hopen, Option.none_or, h] at hbelow
        rw [contentsFrom_some_of_text hne (hmarker.trans hopen), ih hbelow]
        simp [sectioned?, IsContent, hblank, hopen, h, Except.map]

/-- Blank lines above the first marker are passed over. -/
theorem contentsFrom_append_of_blank {blanks : List String}
    (h : ∀ line ∈ blanks, allBlank line = true) (current : Option Section) (number : Nat)
    (lines : List String) :
    contentsFrom current number (blanks ++ lines) =
      contentsFrom current (number + blanks.length) lines := by
  induction blanks generalizing number with
  | nil => rfl
  | cons line blanks ih =>
    obtain ⟨hline, hblanks⟩ := List.forall_mem_cons.1 h
    rw [List.cons_append, contentsFrom_of_blank ((isEmpty_trimmed_chomp line).trans hline), ih hblanks,
      List.length_cons, Nat.add_assoc, Nat.add_comm 1]

/-- A line that is neither blank nor a marker stands at a position, below nothing but blank lines. -/
def StraysAt (lines : List String) (number : Nat) : Prop :=
  ∃ above line below, lines = above ++ line :: below ∧ (∀ l ∈ above, allBlank l = true) ∧
    IsContent line ∧ number = above.length + 1

/-- A dump starts with blank lines; then it ends, or a marker follows, or a line that strays. -/
theorem blanks_cases (lines : List String) :
    (∀ line ∈ lines, allBlank line = true) ∨
    (∃ blanks line below s, lines = blanks ++ line :: below ∧ (∀ l ∈ blanks, allBlank l = true) ∧
      allBlank line = false ∧ opened? line = some s) ∨
    ∃ n, StraysAt lines n := by
  induction lines with
  | nil => exact .inl fun _ h => absurd h List.not_mem_nil
  | cons line lines ih =>
    cases hblank : allBlank line with
    | true =>
      rcases ih with h | ⟨blanks, l, below, s, rfl, hblanks, hl⟩ | ⟨n, above, l, below, rfl, habove, hl⟩
      · exact .inl (List.forall_mem_cons.2 ⟨hblank, h⟩)
      · exact .inr (.inl ⟨line :: blanks, l, below, s, rfl, List.forall_mem_cons.2 ⟨hblank, hblanks⟩, hl⟩)
      · exact .inr (.inr ⟨_, line :: above, l, below, rfl, List.forall_mem_cons.2 ⟨hblank, habove⟩,
          hl.1, rfl⟩)
    | false =>
      have hnil : ∀ l ∈ ([] : List String), allBlank l = true := fun _ h => absurd h List.not_mem_nil
      cases hopen : opened? line with
      | some s => exact .inr (.inl ⟨[], line, lines, s, rfl, hnil, hblank, hopen⟩)
      | none => exact .inr (.inr ⟨1, [], line, lines, rfl, hnil, ⟨hblank, hopen⟩, rfl⟩)

theorem contents_of_straysAt {lines : List String} {n : Nat} (h : StraysAt lines n) :
    contents lines = .error n := by
  obtain ⟨above, line, below, rfl, habove, ⟨hblank, hopen⟩, rfl⟩ := h
  have hne : ¬ (trimmed (chomp line)).isEmpty = true := by
    simp [isEmpty_trimmed_chomp, hblank]
  rw [contents, contentsFrom_append_of_blank habove,
    contentsFrom_none_of_text hne ((marker?_trimmed_chomp line).trans hopen), Nat.add_comm]

theorem filterMap_sectioned?_of_blank {above lines : List String}
    (h : ∀ line ∈ lines, allBlank line = true) : (placedBelow above lines).filterMap sectioned? = [] := by
  rw [List.filterMap_eq_nil_iff]
  intro p hp
  simp [sectioned?, IsContent, h p.line (line_mem_of_mem_placedBelow hp)]

/-- A dump in which no line strays. -/
theorem contents_of_not_straysAt {lines : List String} (h : ∀ n, ¬ StraysAt lines n) :
    contents lines = .ok ((placed lines).filterMap sectioned?) := by
  rcases blanks_cases lines with hblank | ⟨blanks, line, below, s, rfl, hblanks, hline, hopen⟩ | ⟨n, hn⟩
  · have hcontents := contentsFrom_append_of_blank hblank none 1 []
    rw [List.append_nil] at hcontents
    rw [contents, hcontents, ← placedBelow_nil, filterMap_sectioned?_of_blank hblank]
    rfl
  · have hne : ¬ (trimmed (chomp line)).isEmpty = true := by simp [isEmpty_trimmed_chomp, hline]
    have hbelow : sectionBelow (blanks ++ [line]) = some s := by simp [sectionBelow_concat, hopen]
    have hhere : sectioned? ⟨blanks, line⟩ = none := by simp [sectioned?, IsContent, hopen]
    rw [contents, contentsFrom_append_of_blank hblanks,
      contentsFrom_of_marker hne ((marker?_trimmed_chomp line).trans hopen), contentsFrom_eq hbelow,
      ← placedBelow_nil, placedBelow_append, List.nil_append, placedBelow_cons, List.filterMap_append,
      filterMap_sectioned?_of_blank hblanks, List.filterMap_cons_none hhere]
    rfl
  · exact absurd hn (h n)

/-! ### Streams -/

/-- The content for which one section is open, or none, without the ends of the lines. -/
def contentOf (current : Option Section) (ps : List PlacedLine) : List String :=
  (ps.filter fun p => IsContent p.line ∧ sectionBelow p.above = current).map fun p => chomp p.line

/-- The lines of a section, without their ends. -/
def stream (s : Section) (lines : List String) : List String := contentOf (some s) (placed lines)

theorem contentOf_append (current : Option Section) (ps qs : List PlacedLine) :
    contentOf current (ps ++ qs) = contentOf current ps ++ contentOf current qs := by
  simp [contentOf]

theorem linesOf_filterMap_sectioned? (s : Section) (ps : List PlacedLine) :
    linesOf s (ps.filterMap sectioned?) = contentOf (some s) ps := by
  rw [contentOf]
  induction ps with
  | nil => rfl
  | cons p ps ih =>
    rw [linesOf] at ih ⊢
    by_cases hcontent : IsContent p.line
    · cases hs : sectionBelow p.above with
      | none => simp [sectioned?, hcontent, hs, ih]
      | some t => by_cases hst : t = s <;> simp [sectioned?, hcontent, hs, hst, ih]
    · simp [sectioned?, hcontent, ih]

/-- A line cut at its first equals sign. -/
def assignment? (line : String) : Option (String × String) :=
  (line.toList.findIdx? (· = '=')).map fun i =>
    (String.ofList (line.toList.take i), String.ofList (line.toList.drop (i + 1)))

/-- The value that a name is given last. -/
def lastValue (as : List (String × String)) (x : String) : Option String :=
  ((as.filter (·.1 = x)).getLast?).map (·.2)

/-- What a dump says, by the lines of its sections. -/
def ofStreams (dedupe : Bool) (lines : Section → List String) : Document × List Notice :=
  let functionNames := ((lines .functions).map trimmed).eraseDups
  let assignments := (lines .globals).filterMap assignment?
  let globalNames := (assignments.map (·.1)).eraseDups
  let entries := (lines .unknowns).filterMap EncodedMember.ofLine?
  ({ categories := categorize (functionNames.map fun x => { name := x })
     enums := EnumRecord.group dedupe (entries.map EncodedMember.placed)
     globals := globalNames.map fun x => { name := x, value := lastValue assignments x } },
    [.imported functionNames.length globalNames.length entries.length])

/-- The global of an assignment. -/
def globalOf (a : String × String) : GlobalRecord := { name := a.1, value := some a.2 }

theorem ofLine?_eq (line : String) : GlobalRecord.ofLine? line = (assignment? line).map globalOf := by
  by_cases h : '=' ∈ line.toList
  · obtain ⟨name, value, hline, hname⟩ := List.eq_append_cons_of_mem h
    have hne : ∀ c ∈ name, (c != '=') = true := fun c hc => bne_iff_ne.2 fun he => hname (he ▸ hc)
    have hhead : ∀ c ∈ ('=' :: value).head?, (c != '=') = false := by
      rintro _ ⟨⟩
      rfl
    obtain ⟨htake, hdrop⟩ := span_append hne hhead
    have hnone : name.findIdx? (· = '=') = none :=
      List.findIdx?_eq_none_iff.2 fun c hc => by simpa using hne c hc
    have hfind : (name ++ '=' :: value).findIdx? (· = '=') = some name.length := by
      simp [List.findIdx?_append, hnone, List.findIdx?_cons]
    simp [GlobalRecord.ofLine?, assignment?, globalOf, hline, htake, hdrop, hfind]
  · have hdrop : line.toList.dropWhile (· != '=') = [] :=
      List.dropWhile_eq_nil_iff.2 fun c hc => bne_iff_ne.2 fun he => h (he ▸ hc)
    have hnone : line.toList.findIdx? (· = '=') = none :=
      List.findIdx?_eq_none_iff.2 fun c hc => decide_eq_false fun he => h (he ▸ hc)
    simp [GlobalRecord.ofLine?, assignment?, hdrop, hnone]

theorem functions_eq (ls : List Line) :
    functions ls = ((linesOf .functions ls).map trimmed).eraseDups.map fun x => { name := x } := by
  rw [FunctionRecord.eq_map_names fun f hf => eq_of_mem_functions hf, functions, names_firstNamed, names,
    List.map_map]
  rfl

/-- Of the assignments to one name the last one counts, in the place of the first. -/
theorem lastNamed_map_globalOf (as : List (String × String)) :
    lastNamed (as.map globalOf) =
      (as.map (·.1)).eraseDups.map fun x => { name := x, value := lastValue as x } := by
  have hnames : names (as.map globalOf) = as.map (·.1) := by
    rw [names, List.map_map]
    rfl
  have hlast : ∀ g ∈ lastNamed (as.map globalOf), { name := g.name, value := lastValue as g.name } = g := by
    intro g hg
    have hfind := findNamed?_of_mem (nodup_names_lastNamed _) hg
    rw [findNamed?_lastNamed, List.filter_map, List.getLast?_map] at hfind
    obtain ⟨a, ha, rfl⟩ := Option.map_eq_some_iff.1 hfind
    have hvalue : lastValue as (globalOf a).name = some a.2 := by
      rw [lastValue]
      exact congrArg (Option.map (·.2)) ha
    rw [hvalue]
    rfl
  rw [← hnames, ← names_lastNamed, names, List.map_map]
  exact (List.map_id _).symm.trans (List.map_congr_left fun g hg => (hlast g hg).symm)

theorem parse_of_not_straysAt (dedupe : Bool) {lines : List String} (h : ∀ n, ¬ StraysAt lines n) :
    parse dedupe lines = .ok (ofStreams dedupe fun s => stream s lines) := by
  have hstream (s : Section) : linesOf s ((placed lines).filterMap sectioned?) = stream s lines :=
    linesOf_filterMap_sectioned? s _
  have hglobals : globals ((placed lines).filterMap sectioned?) =
      lastNamed (((stream .globals lines).filterMap assignment?).map globalOf) := by
    rw [globals, hstream, List.map_filterMap]
    exact congrArg lastNamed (List.filterMap_congr fun line _ => ofLine?_eq line)
  rw [parse, contents_of_not_straysAt h]
  simp only [Except.map, document, notice, functions_eq, encodedMembers, hglobals,
    lastNamed_map_globalOf, hstream, ofStreams, List.length_map]

/-! ### Regrouping -/

/-- The section that is open below a line. -/
def openAfter (p : PlacedLine) : Option Section := sectionBelow (p.above ++ [p.line])

/-- The lines of a dump for which one section is open, its markers among them. -/
def group (current : Option Section) (lines : List String) : List String :=
  ((placed lines).filter (openAfter · = current)).map (·.line)

/-- The lines of a dump section by section, below those above all markers. -/
def regrouped (order : List Section) (lines : List String) : List String :=
  (none :: order.map some).flatMap fun current => group current lines

theorem perm_flatMap_filter {α β : Type} [DecidableEq β] (key : α → β) {keys : List β}
    (hd : keys.Nodup) {l : List α} (h : ∀ a ∈ l, key a ∈ keys) :
    (keys.flatMap fun k => l.filter (key · = k)).Perm l := by
  induction keys generalizing l with
  | nil =>
    obtain rfl : l = [] := List.eq_nil_iff_forall_not_mem.2 fun a ha => by simpa using h a ha
    exact .refl _
  | cons k keys ih =>
    obtain ⟨hk, hkeys⟩ := List.nodup_cons.1 hd
    have hrest : ∀ a ∈ l.filter (fun a => !decide (key a = k)), key a ∈ keys := by
      intro a ha
      obtain ⟨hal, hne⟩ := List.mem_filter.1 ha
      exact (List.mem_cons.1 (h a hal)).resolve_left (by simpa using hne)
    have hfilter : (keys.flatMap fun j => l.filter (key · = j)) =
        keys.flatMap fun j => (l.filter fun a => !decide (key a = k)).filter (key · = j) := by
      refine List.flatMap_congr fun j hj => ?_
      have hjk : j ≠ k := fun he => hk (he ▸ hj)
      rw [List.filter_filter]
      refine List.filter_congr fun a _ => ?_
      by_cases ha : key a = j
      · simp [ha, hjk]
      · simp [ha]
    rw [List.flatMap_cons, hfilter]
    exact ((ih hkeys hrest).append_left _).trans (List.filter_append_perm _ l)

theorem regrouped_perm {order : List Section} (h : order.Perm Section.all) (lines : List String) :
    (regrouped order lines).Perm lines := by
  have hd : (none :: order.map some).Nodup := by
    rw [((h.map some).cons none).nodup_iff]
    decide
  have hmem : ∀ p ∈ placed lines, openAfter p ∈ none :: order.map some := by
    intro p _
    rw [((h.map some).cons none).mem_iff]
    cases openAfter p with
    | none => decide
    | some s => cases s <;> decide
  have hlines : (placed lines).map (·.line) = lines := map_line_placedBelow [] lines
  have hperm := (perm_flatMap_filter openAfter hd hmem).map (·.line)
  rw [hlines, List.map_flatMap] at hperm
  exact hperm

/-- In a block that opens no section but the one that is open above it, all content belongs to it. -/
theorem contentOf_placedBelow {k : Option Section} {above block : List String}
    (hblock : ∀ line ∈ block, ∀ s, opened? line = some s → k = some s) (h : sectionBelow above = k)
    (current : Option Section) :
    contentOf current (placedBelow above block) =
      if current = k then (block.filter (IsContent ·)).map chomp else [] := by
  induction block generalizing above with
  | nil => simp [placedBelow, contentOf]
  | cons line block ih =>
    obtain ⟨hline, hblock⟩ := List.forall_mem_cons.1 hblock
    have hbelow : sectionBelow (above ++ [line]) = k := by
      rw [sectionBelow_concat]
      cases hopen : opened? line with
      | none => exact h
      | some s => exact (hline s hopen).symm
    rw [placedBelow_cons, ← List.singleton_append, contentOf_append, ih hblock hbelow]
    by_cases hcontent : IsContent line
    · by_cases hk : current = k
      · simp [contentOf, hcontent, h, hk]
      · simp [contentOf, hcontent, h, hk, Ne.symm hk]
    · simp [contentOf, hcontent]

theorem openAfter_eq (p : PlacedLine) : openAfter p = (opened? p.line).or (sectionBelow p.above) :=
  sectionBelow_concat p.above p.line

/-- A marker stands among the lines of the section that it opens. -/
theorem eq_of_mem_group {k : Option Section} {lines : List String} {line : String}
    (h : line ∈ group k lines) {s : Section} (hs : opened? line = some s) : k = some s := by
  obtain ⟨p, hp, rfl⟩ := List.mem_map.1 h
  have hopen := of_decide_eq_true (List.mem_filter.1 hp).2
  rw [← hopen, openAfter_eq, hs, Option.some_or]

/-- The lines of a section start with a marker of it. -/
theorem opened?_head_group (s : Section) (lines : List String) :
    ∀ line ∈ (group (some s) lines).head?, opened? line = some s := by
  suffices h : ∀ above, sectionBelow above ≠ some s →
      ∀ line ∈ (((placedBelow above lines).filter (openAfter · = some s)).map (·.line)).head?,
        opened? line = some s from h [] (by simp [sectionBelow])
  induction lines with
  | nil => simp [placedBelow]
  | cons line lines ih =>
    intro above habove
    have hafter := openAfter_eq ⟨above, line⟩
    rw [placedBelow_cons]
    by_cases hopen : opened? line = some s
    · simp [hafter, hopen]
    · have hne : openAfter ⟨above, line⟩ ≠ some s := by
        rw [hafter]
        cases ht : opened? line with
        | none => exact habove
        | some t => exact fun he => hopen (ht.trans he)
      rw [List.filter_cons_of_neg (by simpa using hne)]
      exact ih _ hne

/-- The content of a group is that of its section. -/
theorem filter_group (k : Option Section) (lines : List String) :
    ((group k lines).filter (IsContent ·)).map chomp = contentOf k (placed lines) := by
  rw [group, List.filter_map, List.map_map, List.filter_filter, contentOf]
  refine congrArg (List.map _) (List.filter_congr fun p _ => ?_)
  by_cases hcontent : IsContent p.line
  · simp [hcontent, openAfter_eq, hcontent.2]
  · simp [hcontent]

/-- So it is wherever the group stands. -/
theorem contentOf_group (s : Section) (current : Option Section) (above lines : List String) :
    contentOf current (placedBelow above (group (some s) lines)) =
      if current = some s then contentOf (some s) (placed lines) else [] := by
  rw [← filter_group]
  have hhead := opened?_head_group s lines
  have hblock : ∀ line ∈ group (some s) lines, ∀ t, opened? line = some t → some s = some t :=
    fun line h t => eq_of_mem_group h
  generalize group (some s) lines = block at hhead hblock
  cases block with
  | nil => simp [placedBelow, contentOf]
  | cons line block =>
    have hopen : opened? line = some s := hhead line rfl
    have hbelow : sectionBelow (above ++ [line]) = some s := by rw [sectionBelow_concat, hopen]; rfl
    have hnot : ¬ IsContent line := by simp [IsContent, hopen]
    rw [placedBelow_cons, ← List.singleton_append, contentOf_append,
      contentOf_placedBelow (fun l hl => hblock l (List.mem_cons_of_mem _ hl)) hbelow]
    simp [contentOf, hnot]

theorem contentOf_groups {order : List Section} (hd : order.Nodup) (current : Option Section)
    (above lines : List String) :
    contentOf current (placedBelow above (order.flatMap fun s => group (some s) lines)) =
      if current ∈ order.map some then contentOf current (placed lines) else [] := by
  induction order generalizing above with
  | nil => simp [placedBelow, contentOf]
  | cons s order ih =>
    obtain ⟨hs, horder⟩ := List.nodup_cons.1 hd
    rw [List.flatMap_cons, placedBelow_append, contentOf_append, contentOf_group, ih horder]
    by_cases hcurrent : current = some s
    · simp [hcurrent, hs]
    · simp [hcurrent]

/-- Regrouping keeps the content of each section. -/
theorem contentOf_regrouped {order : List Section} (h : order.Perm Section.all) (lines : List String)
    (current : Option Section) :
    contentOf current (placed (regrouped order lines)) = contentOf current (placed lines) := by
  have hd : order.Nodup := h.nodup_iff.2 (by decide)
  have hnone : contentOf current (placedBelow [] (group none lines)) =
      if current = none then contentOf none (placed lines) else [] := by
    rw [← filter_group]
    exact contentOf_placedBelow (fun line hl s => eq_of_mem_group hl) rfl current
  rw [← placedBelow_nil, regrouped, List.flatMap_cons, placedBelow_append, contentOf_append, hnone,
    List.flatMap_map, contentOf_groups hd]
  cases current with
  | none => simp
  | some s =>
    have hs : s ∈ order := h.mem_iff.2 (by cases s <;> decide)
    simp [hs]

/-! ### Dumps -/

/-- A line strays exactly if there is content for which no section is open. -/
theorem exists_straysAt_iff {lines : List String} :
    (∃ n, StraysAt lines n) ↔ contentOf none (placed lines) ≠ [] := by
  rw [Ne, contentOf, List.map_eq_nil_iff, List.filter_eq_nil_iff]
  constructor
  · rintro ⟨n, above, line, below, rfl, habove, hcontent, -⟩ hnot
    have hnone : sectionBelow above = none := by
      have hopened : above.filterMap opened? = [] :=
        List.filterMap_eq_nil_iff.2 fun l hl => opened?_of_allBlank (habove l hl)
      rw [sectionBelow, hopened]
      rfl
    have hmem : ⟨above, line⟩ ∈ placed (above ++ line :: below) := by
      simp [← placedBelow_nil, placedBelow_append, placedBelow_cons]
    exact hnot _ hmem (by simp [hcontent, hnone])
  · intro h
    by_contra hstray
    rcases blanks_cases lines with hblank | ⟨blanks, line, below, s, rfl, hblanks, -, hopen⟩ | hstrays
    · refine h fun p hp => ?_
      rw [← placedBelow_nil] at hp
      simp [IsContent, hblank p.line (line_mem_of_mem_placedBelow hp)]
    · refine h fun p hp => ?_
      rw [← placedBelow_nil, placedBelow_append, List.nil_append, placedBelow_cons, List.mem_append,
        List.mem_cons] at hp
      rcases hp with hp | rfl | hp
      · simp [IsContent, hblanks p.line (line_mem_of_mem_placedBelow hp)]
      · simp [IsContent, hopen]
      · -- below the first marker there is always an open section
        obtain ⟨more, hmore⟩ := prefix_above_of_mem_placedBelow hp
        have hsome : sectionBelow p.above ≠ none := by
          simp [← hmore, sectionBelow, hopen]
        simp [hsome]
    · exact hstray hstrays

theorem parse_of_straysAt (dedupe : Bool) {lines : List String} {n : Nat} (h : StraysAt lines n) :
    parse dedupe lines = .error n := by
  rw [parse, contents_of_straysAt h]
  rfl

/-- **A dump is determined by the streams of its sections.** It is refused if a line strays, with the
position of the first one that does.  Else each part of the document follows from the lines of one section,
and regrouping the lines by section makes no difference. -/
theorem parse_streams (dedupe : Bool) (lines : List String) :
    (∀ n, parse dedupe lines = .error n ↔ StraysAt lines n) ∧
      (∀ n, (Failure.contentBeforeSection n).kind = .dumpFormat ∧
        (Failure.contentBeforeSection n).message =
          "line " ++ toString n ++ ": content before any [ScarDoc:...] section marker") ∧
      ((∀ n, ¬ StraysAt lines n) →
        parse dedupe lines = .ok (ofStreams dedupe fun s => stream s lines) ∧
          ∀ order : List Section, order.Perm Section.all →
            (regrouped order lines).Perm lines ∧
              parse dedupe (regrouped order lines) = parse dedupe lines) := by
  refine ⟨fun n => ⟨fun h => ?_, parse_of_straysAt dedupe⟩, fun n => ⟨rfl, rfl⟩, fun h => ?_⟩
  · by_cases hstrays : ∃ m, StraysAt lines m
    · obtain ⟨m, hm⟩ := hstrays
      rw [parse_of_straysAt dedupe hm] at h
      cases h
      exact hm
    · rw [parse_of_not_straysAt dedupe fun m hm => hstrays ⟨m, hm⟩] at h
      cases h
  · have hread := parse_of_not_straysAt dedupe h
    refine ⟨hread, fun order horder => ⟨regrouped_perm horder lines, ?_⟩⟩
    have hcontent := contentOf_regrouped horder lines
    have hregrouped : ∀ n, ¬ StraysAt (regrouped order lines) n := by
      have hnone : ¬ ∃ n, StraysAt (regrouped order lines) n := by
        rw [exists_straysAt_iff, hcontent, ← exists_straysAt_iff]
        exact fun ⟨n, hn⟩ => h n hn
      exact fun n hn => hnone ⟨n, hn⟩
    rw [hread, parse_of_not_straysAt dedupe hregrouped]
    simp only [stream, hcontent]

/-- Sections in turns, markers in several letter cases, and names that come back. -/
theorem parse_streams_interleaved :
    let lines := ["", "[scardoc:GLOBALS]", "Size=1", "[ScarDoc:Functions]", " A_x ", "", "A_y",
      "[ScarDoc:Globals]\r\n", "Time", "Size=a=b\n", " [SCARDOC:UNKNOWNS]", "P[x]=E(1)", "?",
      "[ScarDoc:Functions]", "A_x"]
    let order : List Section := [.unknowns, .functions, .globals]
    (∀ n, ¬ StraysAt lines n) ∧ order.Perm Section.all ∧
      parse true (regrouped order lines) = .ok
        ({ categories := [⟨"A", [{ name := "A_x" }, { name := "A_y" }]⟩]
           enums := [⟨"E", [⟨"P", some "1"⟩]⟩]
           globals := [{ name := "Size", value := some "a=b" }] }, [.imported 2 1 1]) := by
  intro lines order
  have hread : parse true lines = .ok
      ({ categories := [⟨"A", [{ name := "A_x" }, { name := "A_y" }]⟩]
         enums := [⟨"E", [⟨"P", some "1"⟩]⟩]
         globals := [{ name := "Size", value := some "a=b" }] }, [.imported 2 1 1]) := by decide +kernel
  have horder : order.Perm Section.all := by decide
  obtain ⟨herror, -, hstreams⟩ := parse_streams true lines
  have hnot : ∀ n, ¬ StraysAt lines n := by
    intro n hn
    rw [(herror n).2 hn] at hread
    cases hread
  exact ⟨hnot, horder, ((hstreams hnot).2 order horder).2.trans hread⟩

end Dump

end ScriptDoc
