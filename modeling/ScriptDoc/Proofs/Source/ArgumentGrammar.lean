import ScriptDoc.Proofs.Text.Blank
import ScriptDoc.Source.Arguments

/-!
# The grammar of argument lists

An argument list names the mandatory parameters and then, in brackets, the optional ones.  Its grammar is
given by the texts that it produces:

* `Entry`: a type and a name, a type alone, or an ellipsis;
* `Row`: entries between commas, each with blanks around it, and any number of blank entries between two
  of them;
* `Options`: a row between brackets, the closing one of which may be repeated;
* `Listing`: mandatory parameters, optional ones or both, where one comma on either side of the opening
  bracket divides them.

The values of these types cannot break the rules of the grammar, and every one of them has a `text`.
`parse?_listing` says that reading this text gives the parameters back, in their order.
-/

namespace ScriptDoc

open ScriptDoc.Text

namespace ArgumentList

/-! ### Entries -/

/-- Blank characters, or nothing. -/
structure Blanks where
  text : List Char
  isBlank : ∀ c ∈ text, isBlank c = true

theorem Blanks.allowed (b : Blanks) : ∀ c ∈ b.text, c ≠ ',' ∧ c ≠ '[' := by
  intro c hc
  have hblank := b.isBlank c hc
  constructor
  · rintro rfl
    exact absurd hblank (by decide)
  · rintro rfl
    exact absurd hblank (by decide)

/-- A type: a word that neither starts nor ends with a blank character. -/
structure TypeWord where
  text : List Char
  ne_nil : text ≠ []
  allowed : ∀ c ∈ text, c ≠ ' ' ∧ c ≠ ',' ∧ c ≠ '['
  head_not_blank : ∀ c ∈ text.head?, isBlank c = false
  last_not_blank : ∀ c ∈ text.getLast?, isBlank c = false

/-- A name: a text that does not end with a blank character. -/
structure NameText where
  text : List Char
  ne_nil : text ≠ []
  allowed : ∀ c ∈ text, c ≠ ',' ∧ c ≠ '['
  last_not_blank : ∀ c ∈ text.getLast?, isBlank c = false

/-- The word for any number of parameters. -/
def ellipsis : List Char := "...".toList

/-- An entry of an argument list. -/
inductive Entry where
  | pair (type : TypeWord) (name : NameText)
  | bare (type : TypeWord) (ne_ellipsis : type.text ≠ ellipsis)
  | variadic

namespace Entry

/-- The text of an entry. -/
def text : Entry → List Char
  | .pair type name => type.text ++ ' ' :: name.text
  | .bare type _ => type.text
  | .variadic => ellipsis

/-- The parameter that an entry declares at a position of the list. -/
def parameter (required : Bool) (position : Nat) : Entry → Parameter
  | .pair type name =>
    { name := String.ofList name.text, typeName := String.ofList type.text, required }
  | .bare type _ =>
    { name := "arg" ++ toString position, typeName := String.ofList type.text, required }
  | .variadic => { name := "...", typeName := "Any", required }

variable (e : Entry)

theorem allowed : ∀ c ∈ e.text, c ≠ ',' ∧ c ≠ '[' := by
  cases e with
  | pair type name =>
    intro c hc
    rcases List.mem_append.1 hc with hc | hc
    · exact (type.allowed c hc).2
    · rcases List.mem_cons.1 hc with rfl | hc
      · decide
      · exact name.allowed c hc
  | bare type _ => exact fun c hc => (type.allowed c hc).2
  | variadic => simp [text, ellipsis]

theorem head_not_blank : ∀ c ∈ e.text.head?, isBlank c = false := by
  cases e with
  | pair type name =>
    rw [text, List.head?_append_of_ne_nil _ type.ne_nil]
    exact type.head_not_blank
  | bare type _ => exact type.head_not_blank
  | variadic =>
    rintro _ ⟨⟩
    rfl

theorem last_not_blank : ∀ c ∈ e.text.getLast?, isBlank c = false := by
  cases e with
  | pair type name =>
    rw [text, List.append_cons, List.getLast?_append_of_ne_nil _ name.ne_nil]
    exact name.last_not_blank
  | bare type _ => exact type.last_not_blank
  | variadic =>
    rintro _ ⟨⟩
    rfl

theorem text_ne_nil : e.text ≠ [] := by
  cases e with
  | pair type name => exact List.append_ne_nil_of_left_ne_nil type.ne_nil _
  | bare type _ => exact type.ne_nil
  | variadic => decide

/-- An entry is read as the parameter that it declares. -/
theorem parameter?_text (required : Bool) (position : Nat) :
    parameter? required position e.text = some (e.parameter required position) := by
  have hword (type : TypeWord) : ∀ c ∈ type.text, (c != ' ') = true := fun c hc => by
    simpa using (type.allowed c hc).1
  have hne : e.text.isEmpty = false := by simpa using e.text_ne_nil
  rw [parameter?, hne]
  cases e with
  | pair type name =>
    -- the first space ends the type, whatever the name holds
    rw [text, List.dropWhile_append_of_pos (hword type), List.takeWhile_append_of_pos (hword type)]
    simp [parameter]
  | bare type hellipsis =>
    have hdrop : type.text.dropWhile (· != ' ') = [] := List.dropWhile_eq_nil_iff.2 (hword type)
    have hbeq : (type.text == "...".toList) = false := beq_eq_false_iff_ne.2 hellipsis
    simp only [text, hdrop, hbeq, parameter]
    rfl
  | variadic => rfl

end Entry

/-- An entry with blanks around it. -/
structure Slot where
  before : Blanks
  entry : Entry
  after : Blanks

namespace Slot

/-- The text of an entry with its blanks. -/
def text (s : Slot) : List Char := s.before.text ++ s.entry.text ++ s.after.text

theorem trim_text (s : Slot) : trim s.text = s.entry.text :=
  trim_padded s.before.isBlank s.after.isBlank s.entry.head_not_blank s.entry.last_not_blank

theorem text_ne_nil (s : Slot) : s.text ≠ [] := by
  simp [text, s.entry.text_ne_nil]

theorem allowed (s : Slot) : ∀ c ∈ s.text, c ≠ ',' ∧ c ≠ '[' := by
  intro c hc
  simp only [text, List.mem_append] at hc
  rcases hc with (hc | hc) | hc
  · exact s.before.allowed c hc
  · exact s.entry.allowed c hc
  · exact s.after.allowed c hc

end Slot

/-! ### Rows of entries -/

/-- What stands between two commas. -/
inductive Cell where
  | blank (blanks : Blanks)
  | filled (slot : Slot)

namespace Cell

/-- The entry in a cell, if it is not blank. -/
def content? : Cell → Option Entry
  | .blank _ => none
  | .filled slot => some slot.entry

/-- The text of a cell without the blanks around it. -/
def core : Cell → List Char
  | .blank _ => []
  | .filled slot => slot.entry.text

theorem parameter?_core (cell : Cell) (required : Bool) (position : Nat) :
    parameter? required position cell.core = cell.content?.map (Entry.parameter required position) := by
  cases cell with
  | blank _ => rfl
  | filled slot => exact slot.entry.parameter?_text required position

end Cell

/-- The parameters that cells declare. A cell counts for the position even if it is blank. -/
def declared (required : Bool) (start : Nat) (cells : List Cell) : List Parameter :=
  (cells.zipIdx start).filterMap fun c => c.1.content?.map (Entry.parameter required c.2)

theorem parameters_map_core (required : Bool) (start : Nat) (cells : List Cell) :
    parameters required start (cells.map Cell.core) = declared required start cells := by
  simp only [parameters, declared, List.zipIdx_map, List.filterMap_map]
  exact List.filterMap_congr fun c _ => Cell.parameter?_core c.1 required c.2

/-- Entries, with any number of blank entries between two of them. -/
inductive Row where
  | single (slot : Slot)
  | cons (slot : Slot) (gap : List Blanks) (rest : Row)

/-- The text of blank entries, each after a comma. -/
def gapText (gap : List Blanks) : List Char := gap.flatMap fun b => ',' :: b.text

theorem splitOn_append_comma (as bs : List Char) :
    (as ++ ',' :: bs).splitOn ',' = as.splitOn ',' ++ bs.splitOn ',' := by
  rw [List.splitOn_eq_splitOnP, List.splitOn_eq_splitOnP, List.splitOn_eq_splitOnP]
  exact List.splitOnP_append_cons as bs (beq_self_eq_true ',')

theorem splitOn_gapText (gap : List Blanks) (as : List Char) :
    (as ++ gapText gap).splitOn ',' = as.splitOn ',' ++ gap.map Blanks.text := by
  induction gap generalizing as with
  | nil => simp [gapText]
  | cons b gap ih =>
    have hb : b.text.splitOn ',' = [b.text] := List.splitOn_eq_singleton fun h => (b.allowed _ h).1 rfl
    have hgap : as ++ gapText (b :: gap) = as ++ ',' :: (b.text ++ gapText gap) := by simp [gapText]
    rw [hgap, splitOn_append_comma, ih, hb]
    rfl

namespace Row

/-- The cells of a row. -/
def cells : Row → List Cell
  | .single slot => [.filled slot]
  | .cons slot gap rest => .filled slot :: gap.map Cell.blank ++ rest.cells

/-- The text of a row. -/
def text : Row → List Char
  | .single slot => slot.text
  | .cons slot gap rest => slot.text ++ gapText gap ++ ',' :: rest.text

/-- The last entry of a row, with its blanks. -/
def last : Row → Slot
  | .single slot => slot
  | .cons _ _ rest => rest.last

theorem splitOn_slot (slot : Slot) : slot.text.splitOn ',' = [slot.text] :=
  List.splitOn_eq_singleton fun h => (slot.allowed _ h).1 rfl

/-- Between the commas of a row stand its cells. -/
theorem map_trim_splitOn_text (row : Row) :
    (row.text.splitOn ',').map trim = row.cells.map Cell.core := by
  induction row with
  | single slot => simp [text, cells, splitOn_slot, Slot.trim_text, Cell.core]
  | cons slot gap rest ih =>
    have hgap : (gap.map Blanks.text).map trim = (gap.map Cell.blank).map Cell.core := by
      rw [List.map_map, List.map_map]
      refine List.map_congr_left fun b _ => ?_
      exact trim_append_of_blank b.isBlank []
    rw [text, splitOn_append_comma, splitOn_gapText, splitOn_slot, List.map_append, ih, cells,
      List.map_append, List.map_append, hgap, List.map_cons, List.map_nil, Slot.trim_text]
    rfl

theorem bracket_not_mem (row : Row) : '[' ∉ row.text := by
  have hslot (slot : Slot) : '[' ∉ slot.text := fun h => (slot.allowed _ h).2 rfl
  have hblanks (b : Blanks) : '[' ∉ b.text := fun h => (b.allowed _ h).2 rfl
  induction row with
  | single slot => exact hslot slot
  | cons slot gap rest ih => simp [text, gapText, hslot, hblanks, ih]

/-- A row ends with its last entry and blanks. -/
theorem exists_text_eq (row : Row) :
    ∃ as, row.text = as ++ row.last.entry.text ++ row.last.after.text := by
  induction row with
  | single slot => exact ⟨slot.before.text, rfl⟩
  | cons slot gap rest ih =>
    obtain ⟨as, has⟩ := ih
    exact ⟨slot.text ++ gapText gap ++ ',' :: as, by simp [text, last, has]⟩

theorem exists_not_blank (row : Row) : ∃ c ∈ row.text, isBlank c = false := by
  obtain ⟨as, htext⟩ := row.exists_text_eq
  have hlast := List.getLast?_eq_some_getLast row.last.entry.text_ne_nil
  refine ⟨_, ?_, row.last.entry.last_not_blank _ hlast⟩
  simp [htext]

/-- The entries of a row are found again. -/
theorem entries_text (row : Row) : entries row.text = row.cells.map Cell.core := by
  obtain ⟨c, hc, hblank⟩ := row.exists_not_blank
  have hall : ¬ row.text.all isBlank = true := fun h => by
    simpa [hblank] using List.all_eq_true.1 h c hc
  rw [entries, if_neg hall, map_trim_splitOn_text]

/-- A row does not start with a comma. -/
theorem head_ne_comma (row : Row) : ∀ c ∈ row.text.head?, c ≠ ',' := by
  have hslot (slot : Slot) : ∀ c ∈ slot.text.head?, c ≠ ',' := fun c hc =>
    (slot.allowed c (List.mem_of_mem_head? hc)).1
  cases row with
  | single slot => exact hslot slot
  | cons slot gap rest =>
    rw [text, List.append_assoc, List.head?_append_of_ne_nil _ slot.text_ne_nil]
    exact hslot slot

theorem last_ne_of_not_blank (row : Row) {x : Char} (hx : isBlank x = false)
    (h : row.last.entry.text.getLast? ≠ some x) : ∀ c ∈ row.text.getLast?, c ≠ x := by
  obtain ⟨as, htext⟩ := row.exists_text_eq
  intro c hc
  rw [htext, List.getLast?_append] at hc
  cases hafter : row.last.after.text.getLast? with
  | none =>
    rw [hafter, Option.none_or, List.getLast?_append_of_ne_nil _ row.last.entry.text_ne_nil] at hc
    rintro rfl
    exact h hc
  | some d =>
    rw [hafter] at hc
    cases hc
    rintro rfl
    have hblank := row.last.after.isBlank c (List.mem_of_getLast? hafter)
    exact absurd hblank (by simp [hx])

end Row

/-! ### Sections -/

theorem sections_of_not_mem {cs : List Char} (h : '[' ∉ cs) : sections cs = ⟨cs, []⟩ := by
  have hdrop : cs.dropWhile (· != '[') = [] :=
    List.dropWhile_eq_nil_iff.2 fun c hc => by
      rw [bne_iff_ne]
      rintro rfl
      exact h hc
  rw [sections, hdrop]

theorem sections_append {as : List Char} (h : '[' ∉ as) (bs : List Char) :
    sections (as ++ '[' :: bs) =
      ⟨dropLastComma (trimRight isBlank as), dropFirstComma (trimRight (· == ']') bs)⟩ := by
  have has : ∀ c ∈ as, (c != '[') = true := fun c hc => by
    rw [bne_iff_ne]
    rintro rfl
    exact h hc
  rw [sections, List.dropWhile_append_of_pos has, List.takeWhile_append_of_pos has]
  simp

theorem map_trim_splitOn_append {ws : List Char} (h : ∀ c ∈ ws, isBlank c = true) (cs : List Char) :
    ((cs ++ ws).splitOn ',').map trim = (cs.splitOn ',').map trim := by
  by_cases hcomma : ',' ∈ cs
  · obtain ⟨as, bs, hcs⟩ := List.append_of_mem hcomma
    have hlt : bs.length < cs.length := by
      rw [hcs, List.length_append, List.length_cons]
      omega
    rw [hcs, List.append_assoc, List.cons_append, splitOn_append_comma, splitOn_append_comma,
      List.map_append, List.map_append, map_trim_splitOn_append h bs]
  · have hws : ',' ∉ cs ++ ws := by
      rw [List.mem_append, not_or]
      exact ⟨hcomma, fun hmem => absurd (h _ hmem) (by decide)⟩
    rw [List.splitOn_eq_singleton hws, List.splitOn_eq_singleton hcomma, List.map_singleton,
      List.map_singleton, trim_append_of_blank h]
termination_by cs.length
decreasing_by exact hlt

/-- Blanks at the end of a section make no difference. -/
theorem entries_append_of_blank {ws : List Char} (h : ∀ c ∈ ws, isBlank c = true) (cs : List Char) :
    entries (cs ++ ws) = entries cs := by
  have hall : (cs ++ ws).all isBlank = cs.all isBlank := by
    rw [List.all_append, List.all_eq_true.2 h, Bool.and_true]
  rw [entries, entries, hall, map_trim_splitOn_append h]

theorem dropFirstComma_eq_self {cs : List Char} (h : ∀ c ∈ cs.head?, c ≠ ',') :
    dropFirstComma cs = cs := by
  unfold dropFirstComma
  split
  · exact absurd rfl (h _ rfl)
  · rfl

/-- A comma at the end of a section is dropped, and no blank before it. -/
theorem dropLastComma_append_comma (as : List Char) :
    dropLastComma (trimRight isBlank (as ++ [','])) = as := by
  have htrim : trimRight isBlank (as ++ [',']) = as ++ [','] := by
    refine trimRight_eq_self fun c hc => ?_
    rw [List.getLast?_concat] at hc
    cases hc
    decide
  simp [htrim, dropLastComma]

/-- A row before a bracket keeps its entries. -/
theorem Row.entries_dropLastComma (row : Row) :
    entries (dropLastComma (trimRight isBlank row.text)) = row.cells.map Cell.core := by
  obtain ⟨as, htext⟩ := row.exists_text_eq
  have hend : (as ++ row.last.entry.text).getLast? = row.last.entry.text.getLast? :=
    List.getLast?_append_of_ne_nil _ row.last.entry.text_ne_nil
  have htrim : trimRight isBlank row.text = as ++ row.last.entry.text := by
    rw [htext, trimRight_append_of_forall row.last.after.isBlank, trimRight_eq_self]
    rw [hend]
    exact row.last.entry.last_not_blank
  have hcomma : ¬ ((as ++ row.last.entry.text).getLast? == some ',') = true := by
    rw [hend, beq_iff_eq]
    exact fun h => (row.last.entry.allowed _ (List.mem_of_getLast? h)).1 rfl
  rw [htrim, dropLastComma, if_neg hcomma, ← entries_append_of_blank row.last.after.isBlank, ← htext,
    row.entries_text]

/-! ### Argument lists -/

/-- Optional entries in brackets. The last one does not end in a closing bracket, which would count as one
of those that follow it. -/
structure Options where
  row : Row
  moreClosing : Nat
  last_ne_closing : row.last.entry.text.getLast? ≠ some ']'

/-- The text of optional entries, from the first of them to the last closing bracket. -/
def Options.text (o : Options) : List Char := o.row.text ++ List.replicate (o.moreClosing + 1) ']'

/-- Only the closing brackets are dropped at the end. -/
theorem Options.trimRight_append_text (o : Options) (as : List Char) :
    trimRight (· == ']') (as ++ o.text) = as ++ o.row.text := by
  have hclosing : ∀ c ∈ List.replicate (o.moreClosing + 1) ']', (c == ']') = true := by simp
  have hne : o.row.text ≠ [] := List.ne_nil_of_mem o.row.exists_not_blank.choose_spec.1
  rw [Options.text, ← List.append_assoc, trimRight_append_of_forall hclosing]
  refine trimRight_eq_self fun c hc => ?_
  rw [List.getLast?_append_of_ne_nil _ hne] at hc
  exact beq_eq_false_iff_ne.2 (o.row.last_ne_of_not_blank (by decide) o.last_ne_closing c hc)

/-- An opening bracket, with a comma on one side of it or without. -/
inductive Opening where
  | commaBefore
  | commaAfter
  | bracket
  deriving DecidableEq

namespace Opening

/-- The opening bracket with its comma. -/
def text : Opening → List Char
  | .commaBefore => [',', '[']
  | .commaAfter => ['[', ',']
  | .bracket => ['[']

/-- What is left of the text before an opening bracket and its comma. -/
def front (as : List Char) : Opening → List Char
  | .commaBefore => as
  | .commaAfter => dropLastComma (trimRight isBlank as)
  | .bracket => dropLastComma (trimRight isBlank as)

/-- The comma at the bracket is dropped, on whichever side it stands. -/
theorem sections_text {as : List Char} (h : '[' ∉ as) (opening : Opening) (o : Options) :
    sections (as ++ opening.text ++ o.text) = ⟨opening.front as, o.row.text⟩ := by
  have hrow : dropFirstComma (trimRight (· == ']') o.text) = o.row.text := by
    rw [← List.nil_append o.text, o.trimRight_append_text, List.nil_append,
      dropFirstComma_eq_self o.row.head_ne_comma]
  cases opening with
  | commaBefore =>
    have hcomma : '[' ∉ as ++ [','] := by simp [h]
    have htext : as ++ commaBefore.text ++ o.text = as ++ [','] ++ '[' :: o.text := by simp [text]
    rw [htext, sections_append hcomma, dropLastComma_append_comma, hrow, front]
  | commaAfter =>
    have htext : as ++ commaAfter.text ++ o.text = as ++ '[' :: ([','] ++ o.text) := by simp [text]
    rw [htext, sections_append h, o.trimRight_append_text]
    rfl
  | bracket =>
    have htext : as ++ bracket.text ++ o.text = as ++ '[' :: o.text := by simp [text]
    rw [htext, sections_append h, hrow, front]

theorem entries_front_row (opening : Opening) (row : Row) :
    entries (opening.front row.text) = row.cells.map Cell.core := by
  cases opening with
  | commaBefore => exact row.entries_text
  | commaAfter => exact row.entries_dropLastComma
  | bracket => exact row.entries_dropLastComma

theorem entries_front_blanks (opening : Opening) (b : Blanks) : entries (opening.front b.text) = [] := by
  have htrim : trimRight isBlank b.text = [] := trimRight_append_of_forall b.isBlank []
  cases opening with
  | commaBefore => exact if_pos (List.all_eq_true.2 b.isBlank)
  | commaAfter => rw [front, htrim]; rfl
  | bracket => rw [front, htrim]; rfl

end Opening

/-- An argument list: mandatory entries, optional ones, or both. -/
inductive Listing where
  | mandatory (row : Row)
  | both (row : Row) (opening : Opening) (options : Options)
  | optional (front : Blanks) (opening : Opening) (options : Options)

namespace Listing

/-- The text of an argument list. -/
def text : Listing → List Char
  | .mandatory row => row.text
  | .both row opening options => row.text ++ opening.text ++ options.text
  | .optional front opening options => front.text ++ opening.text ++ options.text

/-- The cells before the bracket. -/
def mandatoryCells : Listing → List Cell
  | .mandatory row => row.cells
  | .both row _ _ => row.cells
  | .optional _ _ _ => []

/-- The cells in brackets. -/
def optionalCells : Listing → List Cell
  | .mandatory _ => []
  | .both _ _ options => options.row.cells
  | .optional _ _ options => options.row.cells

/-- The parameters that an argument list declares. Positions go on from the mandatory cells to the
optional ones. -/
def parameters (l : Listing) : List Parameter :=
  declared true 1 l.mandatoryCells ++ declared false (l.mandatoryCells.length + 1) l.optionalCells

/-- Both rows of cells are found again. -/
theorem entries_sections_text (l : Listing) :
    entries (sections l.text).mandatory = l.mandatoryCells.map Cell.core ∧
      entries (sections l.text).optional = l.optionalCells.map Cell.core := by
  cases l with
  | mandatory row =>
    rw [text, sections_of_not_mem row.bracket_not_mem]
    exact ⟨row.entries_text, rfl⟩
  | both row opening options =>
    rw [text, opening.sections_text row.bracket_not_mem]
    exact ⟨opening.entries_front_row row, options.row.entries_text⟩
  | optional front opening options =>
    rw [text, opening.sections_text fun h => (front.allowed _ h).2 rfl]
    exact ⟨opening.entries_front_blanks front, options.row.entries_text⟩

theorem exists_not_blank (l : Listing) : ∃ c ∈ l.text, isBlank c = false := by
  have hrow (row : Row) {cs : List Char} (h : row.text ⊆ cs) : ∃ c ∈ cs, isBlank c = false := by
    obtain ⟨c, hc, hblank⟩ := row.exists_not_blank
    exact ⟨c, h hc, hblank⟩
  cases l with
  | mandatory row => exact row.exists_not_blank
  | both row opening options => exact hrow row (by simp [text])
  | optional front opening options =>
    exact hrow options.row (List.subset_append_of_subset_right _ (List.subset_append_left _ _))

end Listing

/-- **An argument list is read as it is written.** Each entry gives one parameter, in their order; it is
required if it stands before the bracket. -/
theorem parse?_listing (l : Listing) : parse? (String.ofList l.text) = some l.parameters := by
  obtain ⟨hmandatory, hoptional⟩ := l.entries_sections_text
  obtain ⟨c, hc, hblank⟩ := l.exists_not_blank
  have hall : ¬ allBlank (String.ofList l.text) = true := by
    rw [allBlank, String.toList_ofList, List.all_eq_true]
    exact fun h => absurd (h c hc) (by simp [hblank])
  rw [parse?, if_neg hall]
  simp only [String.toList_ofList, hmandatory, hoptional, List.length_map, parameters_map_core,
    Listing.parameters]

/-- A blank entry counts for the position of a type without a name. -/
example :
    let none : Blanks := ⟨[], by simp⟩
    let space : Blanks := ⟨[' '], List.forall_mem_singleton.2 rfl⟩
    let real : TypeWord := ⟨"Real".toList, by simp, by simp, by rintro _ ⟨⟩; rfl, by rintro _ ⟨⟩; rfl⟩
    let pos : NameText := ⟨"pos".toList, by simp, by simp, by rintro _ ⟨⟩; rfl⟩
    let l : Listing := .both
      (.cons ⟨none, .pair real pos, none⟩ [space] (.single ⟨space, .bare real (by decide), space⟩))
      .commaAfter ⟨.cons ⟨space, .bare real (by decide), none⟩ [] (.single ⟨none, .variadic, none⟩), 0,
        by decide⟩
    l.text = "Real pos, , Real [, Real,...]".toList ∧
      l.parameters.map (·.name) = ["pos", "arg3", "arg4", "..."] ∧
      l.parameters.map (·.required) = [true, true, false, false] := by
  decide

end ArgumentList

end ScriptDoc
