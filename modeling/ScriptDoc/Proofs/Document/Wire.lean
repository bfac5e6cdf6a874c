import ScriptDoc.Document.Wire
import ScriptDoc.Proofs.Json.RoundTrip

/-!
# The interchange form is read back

The object of a record is given by its table of fields, in which a field that is left out has no
value.  What a check finds under a name is what the table has there.

* `presentFields`: the fields of a table that have a value;
* `firstPresent_presentFields`: looking a field up in the object is looking it up in the table;
* `Document.check_wire`: the check of a document's object gives the document;
* `Document.interchange_wire`: JSON can hold that object.
-/

namespace ScriptDoc

open ScriptDoc.Json Value

/-! ### Tables of fields -/

/-- The fields of a table that have a value. -/
def presentFields (table : List (String × Option Value)) : List (String × Value) :=
  table.filterMap fun f => f.2.map (f.1, ·)

theorem presentFields_nil : presentFields [] = [] := rfl

theorem presentFields_cons_some (name : String) (v : Value) (table : List (String × Option Value)) :
    presentFields ((name, some v) :: table) = (name, v) :: presentFields table := rfl

theorem presentFields_cons_none (name : String) (table : List (String × Option Value)) :
    presentFields ((name, none) :: table) = presentFields table := rfl

theorem presentFields_cons_text (name : String) (o : Option String)
    (table : List (String × Option Value)) :
    presentFields ((name, o.map .text) :: table) = wireText name o ++ presentFields table := by
  cases o <;> rfl

/-- A list as the value of a field: the empty list is left out. -/
def listValue? (items : List Value) : Option Value :=
  if items.isEmpty then none else some (.list items)

theorem presentFields_cons_list (name : String) (items : List Value)
    (table : List (String × Option Value)) :
    presentFields ((name, listValue? items) :: table)
      = wireList name items ++ presentFields table := by
  cases items <;> rfl

theorem names_presentFields_sublist (table : List (String × Option Value)) :
    ((presentFields table).map Prod.fst).Sublist (table.map Prod.fst) := by
  induction table with
  | nil => exact .slnil
  | cons f table ih =>
    obtain ⟨name, o⟩ := f
    cases o with
    | none => exact ih.cons name
    | some v => exact ih.cons_cons name

theorem mem_presentFields {table : List (String × Option Value)} {f : String × Value}
    (h : f ∈ presentFields table) : (f.1, some f.2) ∈ table := by
  obtain ⟨⟨name, o⟩, hg, hf⟩ := List.mem_filterMap.1 h
  obtain ⟨v, hv, rfl⟩ := Option.map_eq_some_iff.1 hf
  rwa [← show o = some v from hv]

theorem lookup_presentFields {table : List (String × Option Value)}
    (h : (table.map Prod.fst).Nodup) (name : String) :
    (presentFields table).lookup name = (table.lookup name).join := by
  induction table with
  | nil => rfl
  | cons f table ih =>
    obtain ⟨k, o⟩ := f
    rw [List.map_cons, List.nodup_cons] at h
    have ih := ih h.2
    by_cases hk : name = k
    · -- A field that is left out does not stand further down either.
      subst hk
      cases o with
      | none => rw [presentFields_cons_none, ih, lookup_eq_none h.1, List.lookup_cons_self]; rfl
      | some v => rw [presentFields_cons_some, List.lookup_cons_self, List.lookup_cons_self]; rfl
    · have hb : (name == k) = false := beq_eq_false_iff_ne.2 hk
      cases o with
      | none => rw [presentFields_cons_none, ih, List.lookup_cons, hb]
      | some v => rw [presentFields_cons_some, List.lookup_cons, hb, ih, List.lookup_cons, hb]

/-- Where no name but `name` stands in a table, what the table has there is what counts. -/
theorem firstPresent_presentFields {table : List (String × Option Value)} {keys : List String}
    (hk : table.map Prod.fst = keys) (hd : keys.Nodup) {names : List String} (name : String)
    (h : name ∈ names ∧ ∀ n ∈ names, n ∈ keys → n = name) {o : Option Value}
    (hl : table.lookup name = some o) :
    firstPresent names (fieldEntries (presentFields table)) = o.map (name, ·) := by
  subst hk
  -- The induction passes `name` by, so it has to say what holds where `name` is missing.
  have hf (names : List String) (h : ∀ n ∈ names, n ∈ table.map Prod.fst → n = name) :
      firstPresent names (fieldEntries (presentFields table))
        = if name ∈ names then o.map (name, ·) else none := by
    simp only [firstPresent, lookup_fieldEntries, lookup_presentFields hd]
    induction names with
    | nil => rfl
    | cons n names ih =>
      have ih := ih fun m hm => h m (List.mem_cons_of_mem n hm)
      rw [List.findSome?_cons, ih]
      by_cases hn : n = name
      · subst hn
        cases o <;> simp [hl]
      · have hno : table.lookup n = none :=
          lookup_eq_none fun hm => hn (h n List.mem_cons_self hm)
        simp [hno, Ne.symm hn]
  rw [hf names h.2, if_pos h.1]

/-! ### Checks of single fields -/

theorem required_eq {α : Type} {names : List String} {check : Check α}
    {entries : List (Scalar × Value)} {name : String} {v : Value} {a : α}
    (h : firstPresent names entries = some (name, v)) (hv : check v = .good a) :
    required names check entries = .good a := by
  rw [required, h]
  simp only [hv, Checked.within]

theorem optional_eq {α : Type} {names : List String} {check : Check α}
    {entries : List (Scalar × Value)} {name : String} {v : Value} {a : α} (default : α)
    (h : firstPresent names entries = some (name, v)) (hv : check v = .good a) :
    optional names default check entries = .good a := by
  rw [optional, h]
  simp only [hv, Checked.within]

theorem optional_text_eq {names : List String} {entries : List (Scalar × Value)} {name : String}
    {o : Option String} (h : firstPresent names entries = (o.map .text).map (name, ·)) :
    optional names none Check.text? entries = .good o := by
  cases o with
  | none => rw [optional, h]; rfl
  | some s => exact optional_eq none h rfl

theorem items_map {α : Type} {check : Check α} {wire : α → Value} {as : List α}
    (hw : ∀ a ∈ as, check (wire a) = .good a) (index : Nat) :
    Check.items check index (as.map wire) = .good as := by
  induction as generalizing index with
  | nil => rfl
  | cons a as ih =>
    rw [List.map_cons, Check.items, hw a List.mem_cons_self,
      ih fun b hb => hw b (List.mem_cons_of_mem a hb)]
    rfl

theorem optional_list_eq {α : Type} {names : List String} {check : Check α} {wire : α → Value}
    {entries : List (Scalar × Value)} {name : String} {as : List α}
    (hw : ∀ a ∈ as, check (wire a) = .good a)
    (h : firstPresent names entries = (listValue? (as.map wire)).map (name, ·)) :
    optional names [] (Check.list check) entries = .good as := by
  cases as with
  | nil => rw [optional, h]; rfl
  | cons a as => exact optional_eq [] h (items_map hw 0)

/-! ### What records are written as -/

/-- The characters of the names of fields. -/
def fieldNameChars : List Char := "abcdefghijklmnopqrstuvwxyz_".toList

/-- Whether a name is one that fields have: a short word of lower-case letters and low lines. -/
def isFieldName (name : String) : Bool :=
  name.toList.all fieldNameChars.contains && name.toList.length ≤ 32

/-- The values that records are written as: truth values, texts, and lists and objects of such values,
where the fields of an object have distinct names. Lists and objects are nested at most `room` deep. -/
inductive Interchange : Nat → Value → Prop where
  | bool {room : Nat} (b : Bool) : Interchange room (.bool b)
  | text {room : Nat} (s : String) : Interchange room (.text s)
  | list {room : Nat} {items : List Value} (h : ∀ v ∈ items, Interchange room v) :
      Interchange (room + 1) (.list items)
  | object {room : Nat} {fields : List (String × Value)} (distinct : (fields.map Prod.fst).Nodup)
      (names : ∀ f ∈ fields, isFieldName f.1 = true) (h : ∀ f ∈ fields, Interchange room f.2) :
      Interchange (room + 1) (.object fields)

/-- JSON can hold what records are written as. -/
theorem Interchange.storable {room : Nat} {v : Value} (h : Interchange room v) : Storable room v := by
  induction h with
  | bool b => exact .bool b
  | text s => exact .text s
  | list _ ih => exact .list ih
  | object distinct _ _ ih => exact .object distinct ih

/-- There are no sets in what records are written as, and so no order to put them in. -/
theorem Interchange.arranged_eq {room : Nat} {v : Value} (h : Interchange room v) (order : SetOrder) :
    v.arranged order = v := by
  induction h with
  | bool b => rfl
  | text s => rfl
  | list _ ih => rw [Value.arranged, Value.arrangedItems_eq_self ih]
  | object _ _ _ ih => rw [Value.object_eq, Value.arranged, Value.arrangedEntries_eq_self ih]

/-- What a field of a table holds is such a value. -/
def Fits (room : Nat) (o : Option Value) : Prop := ∀ v, o = some v → Interchange room v

theorem fits_some {room : Nat} {v : Value} (h : Interchange room v) : Fits room (some v) := by
  rintro _ ⟨⟩
  exact h

theorem fits_text (room : Nat) (o : Option String) : Fits room (o.map .text) := by
  intro v hv
  obtain ⟨s, -, rfl⟩ := Option.map_eq_some_iff.1 hv
  exact .text s

theorem fits_list {α : Type} {room : Nat} {wire : α → Value} (h : ∀ a, Interchange room (wire a))
    (as : List α) : Fits (room + 1) (listValue? (as.map wire)) := by
  intro v hv
  cases as with
  | nil => cases hv
  | cons a as =>
    cases hv
    refine .list fun v hv => ?_
    obtain ⟨b, -, rfl⟩ := List.mem_map.1 hv
    exact h b

theorem interchange_presentFields {room : Nat} {table : List (String × Option Value)}
    {keys : List String} (hk : table.map Prod.fst = keys) (hd : keys.Nodup)
    (hn : ∀ name ∈ keys, isFieldName name = true) (h : ∀ f ∈ table, Fits room f.2) :
    Interchange (room + 1) (.object (presentFields table)) := by
  subst hk
  refine .object (hd.sublist (names_presentFields_sublist table)) (fun f hf => ?_) fun f hf => ?_
  · exact hn _ (List.mem_map_of_mem (mem_presentFields hf))
  · exact h _ (mem_presentFields hf) f.2 rfl

/-! ### Records -/

namespace Parameter

/-- The names of a parameter's fields. -/
def fieldNames : List String := ["name", "type", "description", "required"]

theorem nodup_fieldNames : fieldNames.Nodup := by decide

/-- The fields of a parameter. -/
def table (p : Parameter) : List (String × Option Value) :=
  [("name", some (.text p.name)), ("type", some (.text p.typeName)),
    ("description", p.description.map .text), ("required", some (.bool p.required))]

theorem names_table (p : Parameter) : p.table.map Prod.fst = fieldNames := rfl

theorem wire_eq (p : Parameter) : p.wire = .object (presentFields p.table) := by
  simp only [wire, table, presentFields_nil, presentFields_cons_some, presentFields_cons_text,
    List.cons_append, List.nil_append]

theorem check_wire (p : Parameter) : check p.wire = .good p := by
  have hf := @firstPresent_presentFields _ _ p.names_table nodup_fieldNames
  rw [wire_eq, object_eq, check, Check.record]
  generalize fieldEntries (presentFields p.table) = e at hf ⊢
  have h₁ : ScriptDoc.required ["name", "arg_name"] Check.text e = .good p.name :=
    required_eq (hf "name" (by decide) rfl) rfl
  have h₂ : ScriptDoc.required ["type", "arg_type"] Check.text e = .good p.typeName :=
    required_eq (hf "type" (by decide) rfl) rfl
  have h₃ : optional ["description", "arg_description"] none Check.text? e = .good p.description :=
    optional_text_eq (hf "description" (by decide) rfl)
  have h₄ : optional ["required", "arg_required"] true Check.flag e = .good p.required :=
    optional_eq true (hf "required" (by decide) rfl) rfl
  rw [h₁, h₂, h₃, h₄]
  rfl

theorem interchange_wire (room : Nat) (p : Parameter) : Interchange (room + 1) p.wire := by
  rw [wire_eq]
  apply interchange_presentFields p.names_table nodup_fieldNames (by decide)
  simp only [table, List.forall_mem_cons]
  exact ⟨fits_some (.text _), fits_some (.text _), fits_text room _, fits_some (.bool _), nofun⟩

end Parameter

namespace FunctionRecord

/-- The names of a function's fields. -/
def fieldNames : List String :=
  ["name", "short_description", "extended_description", "example", "return_type",
    "return_description", "parameters", "source_origin", "groups"]

theorem nodup_fieldNames : fieldNames.Nodup := by decide

/-- The fields of a function. -/
def table (f : FunctionRecord) : List (String × Option Value) :=
  [("name", some (.text f.name)), ("short_description", f.shortDescription.map .text),
    ("extended_description", listValue? (f.extendedDescription.map .text)),
    ("example", f.usage.map .text), ("return_type", f.returnType.map .text),
    ("return_description", f.returnDescription.map .text),
    ("parameters", listValue? (f.parameters.map Parameter.wire)),
    ("source_origin", f.origin.map .text), ("groups", listValue? (f.groups.map .text))]

theorem names_table (f : FunctionRecord) : f.table.map Prod.fst = fieldNames := rfl

theorem wire_eq (f : FunctionRecord) : f.wire = .object (presentFields f.table) := by
  simp only [wire, table, presentFields_nil, presentFields_cons_some, presentFields_cons_text,
    presentFields_cons_list, List.append_assoc, List.cons_append, List.nil_append, List.append_nil]

theorem check_wire (f : FunctionRecord) : check f.wire = .good f := by
  have hf := @firstPresent_presentFields _ _ f.names_table nodup_fieldNames
  rw [wire_eq, object_eq, check, Check.record]
  generalize fieldEntries (presentFields f.table) = e at hf ⊢
  have ht (as : List String) : ∀ s ∈ as, Check.text (.text s) = .good s := fun _ _ => rfl
  have h₁ : required ["name"] Check.text e = .good f.name :=
    required_eq (hf "name" (by decide) rfl) rfl
  have h₂ : optional ["short_description", "description_short"] none Check.text? e
      = .good f.shortDescription :=
    optional_text_eq (hf "short_description" (by decide) rfl)
  have h₃ : optional ["extended_description", "description_extended"] [] (Check.list Check.text) e
      = .good f.extendedDescription :=
    optional_list_eq (ht _) (hf "extended_description" (by decide) rfl)
  have h₄ : optional ["example"] none Check.text? e = .good f.usage :=
    optional_text_eq (hf "example" (by decide) rfl)
  have h₅ : optional ["return_type"] none Check.text? e = .good f.returnType :=
    optional_text_eq (hf "return_type" (by decide) rfl)
  have h₆ : optional ["return_description"] none Check.text? e = .good f.returnDescription :=
    optional_text_eq (hf "return_description" (by decide) rfl)
  have h₇ : optional ["parameters"] [] (Check.list Parameter.check) e = .good f.parameters :=
    optional_list_eq (fun p _ => p.check_wire) (hf "parameters" (by decide) rfl)
  have h₈ : optional ["source_origin", "source_file"] none Check.text? e = .good f.origin :=
    optional_text_eq (hf "source_origin" (by decide) rfl)
  have h₉ : optional ["groups"] [] (Check.list Check.text) e = .good f.groups :=
    optional_list_eq (ht _) (hf "groups" (by decide) rfl)
  rw [h₁, h₂, h₃, h₄, h₅, h₆, h₇, h₈, h₉]
  rfl

theorem interchange_wire (room : Nat) (f : FunctionRecord) : Interchange (room + 3) f.wire := by
  rw [wire_eq]
  apply interchange_presentFields f.names_table nodup_fieldNames (by decide)
  simp only [table, List.forall_mem_cons]
  exact ⟨fits_some (.text _), fits_text _ _, fits_list .text _, fits_text _ _, fits_text _ _,
    fits_text _ _, fits_list (Parameter.interchange_wire room) _, fits_text _ _, fits_list .text _,
    nofun⟩

end FunctionRecord

namespace Category

/-- The names of a category's fields. -/
def fieldNames : List String := ["category_name", "category_functions"]

theorem nodup_fieldNames : fieldNames.Nodup := by decide

/-- The fields of a category. -/
def table (c : Category) : List (String × Option Value) :=
  [("category_name", some (.text c.name)),
    ("category_functions", listValue? (c.functions.map FunctionRecord.wire))]

theorem names_table (c : Category) : c.table.map Prod.fst = fieldNames := rfl

theorem wire_eq (c : Category) : c.wire = .object (presentFields c.table) := by
  simp only [wire, table, presentFields_nil, presentFields_cons_some, presentFields_cons_list,
    List.cons_append, List.nil_append, List.append_nil]

theorem check_wire (c : Category) : check c.wire = .good c := by
  have hf := @firstPresent_presentFields _ _ c.names_table nodup_fieldNames
  rw [wire_eq, object_eq, check, Check.record]
  generalize fieldEntries (presentFields c.table) = e at hf ⊢
  have h₁ : required ["name", "category_name"] Check.text e = .good c.name :=
    required_eq (hf "category_name" (by decide) rfl) rfl
  have h₂ : optional ["functions", "category_functions"] [] (Check.list FunctionRecord.check) e
      = .good c.functions :=
    optional_list_eq (fun f _ => f.check_wire) (hf "category_functions" (by decide) rfl)
  rw [h₁, h₂]
  rfl

theorem interchange_wire (room : Nat) (c : Category) : Interchange (room + 5) c.wire := by
  rw [wire_eq]
  apply interchange_presentFields c.names_table nodup_fieldNames (by decide)
  simp only [table, List.forall_mem_cons]
  exact ⟨fits_some (.text _), fits_list (FunctionRecord.interchange_wire room) _, nofun⟩

end Category

namespace EnumMember

/-- The names of an enum member's fields. -/
def fieldNames : List String := ["name", "value"]

theorem nodup_fieldNames : fieldNames.Nodup := by decide

/-- The fields of an enum member. -/
def table (m : EnumMember) : List (String × Option Value) :=
  [("name", some (.text m.name)), ("value", m.value.map .text)]

theorem names_table (m : EnumMember) : m.table.map Prod.fst = fieldNames := rfl

theorem wire_eq (m : EnumMember) : m.wire = .object (presentFields m.table) := by
  simp only [wire, table, presentFields_nil, presentFields_cons_some, presentFields_cons_text,
    List.cons_append, List.nil_append, List.append_nil]

theorem check_wire (m : EnumMember) : check m.wire = .good m := by
  have hf := @firstPresent_presentFields _ _ m.names_table nodup_fieldNames
  rw [wire_eq, object_eq, check, Check.record]
  generalize fieldEntries (presentFields m.table) = e at hf ⊢
  have h₁ : required ["name"] Check.text e = .good m.name :=
    required_eq (hf "name" (by decide) rfl) rfl
  have h₂ : optional ["value"] none Check.text? e = .good m.value :=
    optional_text_eq (hf "value" (by decide) rfl)
  rw [h₁, h₂]
  rfl

theorem interchange_wire (room : Nat) (m : EnumMember) : Interchange (room + 1) m.wire := by
  rw [wire_eq]
  apply interchange_presentFields m.names_table nodup_fieldNames (by decide)
  simp only [table, List.forall_mem_cons]
  exact ⟨fits_some (.text _), fits_text _ _, nofun⟩

end EnumMember

namespace EnumRecord

/-- The names of an enum's fields. -/
def fieldNames : List String := ["name", "values"]

theorem nodup_fieldNames : fieldNames.Nodup := by decide

/-- The fields of an enum. -/
def table (r : EnumRecord) : List (String × Option Value) :=
  [("name", some (.text r.name)), ("values", listValue? (r.members.map EnumMember.wire))]

theorem names_table (r : EnumRecord) : r.table.map Prod.fst = fieldNames := rfl

theorem wire_eq (r : EnumRecord) : r.wire = .object (presentFields r.table) := by
  simp only [wire, table, presentFields_nil, presentFields_cons_some, presentFields_cons_list,
    List.cons_append, List.nil_append, List.append_nil]

theorem check_wire (r : EnumRecord) : check r.wire = .good r := by
  have hf := @firstPresent_presentFields _ _ r.names_table nodup_fieldNames
  rw [wire_eq, object_eq, check, Check.record]
  generalize fieldEntries (presentFields r.table) = e at hf ⊢
  have h₁ : required ["name"] Check.text e = .good r.name :=
    required_eq (hf "name" (by decide) rfl) rfl
  have h₂ : optional ["values"] [] (Check.list EnumMember.check) e = .good r.members :=
    optional_list_eq (fun m _ => m.check_wire) (hf "values" (by decide) rfl)
  rw [h₁, h₂]
  rfl

theorem interchange_wire (room : Nat) (r : EnumRecord) : Interchange (room + 3) r.wire := by
  rw [wire_eq]
  apply interchange_presentFields r.names_table nodup_fieldNames (by decide)
  simp only [table, List.forall_mem_cons]
  exact ⟨fits_some (.text _), fits_list (EnumMember.interchange_wire room) _, nofun⟩

end EnumRecord

namespace GlobalRecord

/-- The names of a global's fields. -/
def fieldNames : List String := ["name", "value", "description", "global_type"]

theorem nodup_fieldNames : fieldNames.Nodup := by decide

/-- The fields of a global. -/
def table (g : GlobalRecord) : List (String × Option Value) :=
  [("name", some (.text g.name)), ("value", g.value.map .text),
    ("description", g.description.map .text), ("global_type", g.typeName.map .text)]

theorem names_table (g : GlobalRecord) : g.table.map Prod.fst = fieldNames := rfl

theorem wire_eq (g : GlobalRecord) : g.wire = .object (presentFields g.table) := by
  simp only [wire, table, presentFields_nil, presentFields_cons_some, presentFields_cons_text,
    List.append_assoc, List.cons_append, List.nil_append, List.append_nil]

theorem check_wire (g : GlobalRecord) : check g.wire = .good g := by
  have hf := @firstPresent_presentFields _ _ g.names_table nodup_fieldNames
  rw [wire_eq, object_eq, check, Check.record]
  generalize fieldEntries (presentFields g.table) = e at hf ⊢
  have h₁ : required ["name"] Check.text e = .good g.name :=
    required_eq (hf "name" (by decide) rfl) rfl
  have h₂ : optional ["value"] none Check.text? e = .good g.value :=
    optional_text_eq (hf "value" (by decide) rfl)
  have h₃ : optional ["description"] none Check.text? e = .good g.description :=
    optional_text_eq (hf "description" (by decide) rfl)
  have h₄ : optional ["type", "global_type"] none Check.text? e = .good g.typeName :=
    optional_text_eq (hf "global_type" (by decide) rfl)
  rw [h₁, h₂, h₃, h₄]
  rfl

theorem interchange_wire (room : Nat) (g : GlobalRecord) : Interchange (room + 1) g.wire := by
  rw [wire_eq]
  apply interchange_presentFields g.names_table nodup_fieldNames (by decide)
  simp only [table, List.forall_mem_cons]
  exact ⟨fits_some (.text _), fits_text _ _, fits_text _ _, fits_text _ _, nofun⟩

end GlobalRecord

namespace Document

/-- The names of a document's fields. -/
def fieldNames : List String := ["categories", "enums", "globals"]

theorem nodup_fieldNames : fieldNames.Nodup := by decide

/-- The fields of a document. -/
def table (d : Document) : List (String × Option Value) :=
  [("categories", listValue? (d.categories.map Category.wire)),
    ("enums", listValue? (d.enums.map EnumRecord.wire)),
    ("globals", listValue? (d.globals.map GlobalRecord.wire))]

theorem names_table (d : Document) : d.table.map Prod.fst = fieldNames := rfl

theorem wire_eq (d : Document) : d.wire = .object (presentFields d.table) := by
  simp only [wire, table, presentFields_nil, presentFields_cons_list, List.append_assoc,
    List.append_nil]

/-- **A document is what its object is checked to be.** -/
theorem check_wire (d : Document) : check d.wire = .good d := by
  have hf := @firstPresent_presentFields _ _ d.names_table nodup_fieldNames
  rw [wire_eq, object_eq, check, Check.record]
  generalize fieldEntries (presentFields d.table) = e at hf ⊢
  have h₁ : optional ["categories"] [] (Check.list Category.check) e = .good d.categories :=
    optional_list_eq (fun c _ => c.check_wire) (hf "categories" (by decide) rfl)
  have h₂ : optional ["enums"] [] (Check.list EnumRecord.check) e = .good d.enums :=
    optional_list_eq (fun r _ => r.check_wire) (hf "enums" (by decide) rfl)
  have h₃ : optional ["globals"] [] (Check.list GlobalRecord.check) e = .good d.globals :=
    optional_list_eq (fun g _ => g.check_wire) (hf "globals" (by decide) rfl)
  rw [h₁, h₂, h₃]
  rfl

/-- A document's object nests objects and lists seven deep: document, categories, category,
functions, function, parameters, parameter. -/
theorem interchange_wire (room : Nat) (d : Document) : Interchange (room + 7) d.wire := by
  rw [wire_eq]
  apply interchange_presentFields d.names_table nodup_fieldNames (by decide)
  simp only [table, List.forall_mem_cons]
  exact ⟨fits_list (Category.interchange_wire room) _,
    fits_list (EnumRecord.interchange_wire (room + 2)) _,
    fits_list (GlobalRecord.interchange_wire (room + 4)) _, nofun⟩

end Document

end ScriptDoc
