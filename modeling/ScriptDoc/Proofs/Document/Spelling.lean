import Mathlib.Data.List.Forall2
import ScriptDoc.Proofs.Document.Wire

/-!
# Other spellings of a document

The interchange form of a document may be spelled in many ways.  In each record, independently:

* a field may stand under any of the names that it is accepted under;
* under the names that come after that one in the order of choice, anything may stand;
* so it may under names that no field of the record is accepted under;
* a field that is left out may be written as null, or as the empty list if it holds a list.

`RecordSpelling` and `ListSpelling` say this for one object and one list, and each record has the
table of its fields (`Parameter.forms` to `Document.forms`).  A check does not see the difference
(`Check.Keeps`): this is shown once for fields, lists and objects, and put together for each record.

* `Document.check_spelling`: every spelling of a document is read as the document.
-/

namespace ScriptDoc

/-! ### Fields -/

/-- The value that counts for a field, given its names: it stands under one of them, and nothing stands
under those before. -/
inductive Counts (e : List (Scalar × Value)) (v : Value) : List String → Prop
  | here {name : String} (names : List String) (h : Value.lookup (.text name) e = some v) :
      Counts e v (name :: names)
  | later {name : String} {names : List String} (hname : Value.lookup (.text name) e = none)
      (h : Counts e v names) : Counts e v (name :: names)

/-- Nothing stands under any of the names of a field. -/
def Absent (e : List (Scalar × Value)) (names : List String) : Prop :=
  ∀ n ∈ names, Value.lookup (.text n) e = none

theorem Counts.firstPresent_eq {e : List (Scalar × Value)} {v : Value} {names : List String}
    (h : Counts e v names) : ∃ name, firstPresent names e = some (name, v) := by
  induction h with
  | @here name names h => exact ⟨name, by rw [firstPresent, List.findSome?_cons, h]; rfl⟩
  | later hname _ ih =>
    obtain ⟨n, hn⟩ := ih
    refine ⟨n, ?_⟩
    rw [firstPresent, List.findSome?_cons, hname]
    exact hn

theorem Absent.firstPresent_eq {e : List (Scalar × Value)} {names : List String}
    (h : Absent e names) : firstPresent names e = none := by
  rw [firstPresent, List.findSome?_eq_none_iff]
  intro n hn
  rw [h n hn, Option.map_none]

/-- How a field may be spelled. -/
structure FieldForm where
  /-- The names that the field is accepted under, first choice first. -/
  names : List String
  /-- What may stand for the field when it is left out. -/
  blank : Option Value
  /-- The spellings of its value. -/
  spelling : Value → Value → Prop

/-- The field of the entries `e'` is a spelling of that of `e`. -/
inductive FieldForm.Spells (f : FieldForm) (e e' : List (Scalar × Value)) : Prop
  | written (v w : Value) (hv : Counts e v f.names) (hw : Counts e' w f.names)
      (h : f.spelling v w)
  | leftOut (he : Absent e f.names) (he' : Absent e' f.names)
  | blank (v : Value) (he : Absent e f.names) (hv : Counts e' v f.names) (h : v ∈ f.blank)

/-- The spellings of an object with fields of the given forms. -/
inductive RecordSpelling (forms : List FieldForm) : Value → Value → Prop
  | same (v : Value) : RecordSpelling forms v v
  | fields (e e' : List (Scalar × Value)) (h : ∀ f ∈ forms, f.Spells e e') :
      RecordSpelling forms (.map e) (.map e')

/-- The spellings of a list, given those of its items. -/
inductive ListSpelling (item : Value → Value → Prop) : Value → Value → Prop
  | same (v : Value) : ListSpelling item v v
  | items (vs ws : List Value) (h : List.Forall₂ item vs ws) :
      ListSpelling item (.list vs) (.list ws)

namespace FieldForm

/-- A field that is always written. -/
def always (names : List String) : FieldForm := ⟨names, none, Eq⟩

/-- A text that may be left out. -/
def text (names : List String) : FieldForm := ⟨names, some .null, Eq⟩

/-- A list that is left out if it is empty. -/
def list (names : List String) (item : Value → Value → Prop) : FieldForm :=
  ⟨names, some (.list []), ListSpelling item⟩

end FieldForm

/-! ### Records -/

/-- The fields of a parameter. -/
def Parameter.forms : List FieldForm :=
  [.always ["name", "arg_name"], .always ["type", "arg_type"],
    .text ["description", "arg_description"], .always ["required", "arg_required"]]

/-- The fields of a function. -/
def FunctionRecord.forms : List FieldForm :=
  [.always ["name"], .text ["short_description", "description_short"],
    .list ["extended_description", "description_extended"] Eq, .text ["example"],
    .text ["return_type"], .text ["return_description"],
    .list ["parameters"] (RecordSpelling Parameter.forms),
    .text ["source_origin", "source_file"], .list ["groups"] Eq]

/-- The fields of a category. -/
def Category.forms : List FieldForm :=
  [.always ["name", "category_name"],
    .list ["functions", "category_functions"] (RecordSpelling FunctionRecord.forms)]

/-- The fields of an enum member. -/
def EnumMember.forms : List FieldForm := [.always ["name"], .text ["value"]]

/-- The fields of an enum. -/
def EnumRecord.forms : List FieldForm :=
  [.always ["name"], .list ["values"] (RecordSpelling EnumMember.forms)]

/-- The fields of a global. -/
def GlobalRecord.forms : List FieldForm :=
  [.always ["name"], .text ["value"], .text ["description"], .text ["type", "global_type"]]

/-- The fields of a document. -/
def Document.forms : List FieldForm :=
  [.list ["categories"] (RecordSpelling Category.forms),
    .list ["enums"] (RecordSpelling EnumRecord.forms),
    .list ["globals"] (RecordSpelling GlobalRecord.forms)]

/-! ### Checks do not see the spelling -/

theorem Checked.both_eq_good {α β γ : Type} {f : α → β → γ} {x : Checked α} {y : Checked β} {c : γ}
    (h : Checked.both f x y = .good c) : ∃ a b, x = .good a ∧ y = .good b ∧ f a b = c := by
  cases x with
  | good a =>
    cases y with
    | good b => cases h; exact ⟨a, b, rfl, rfl, rfl⟩
    | bad ps => cases h
  | bad qs => cases y <;> cases h

theorem Checked.of_within {α : Type} {step : Step} {x : Checked α} {a : α}
    (h : x.within step = .good a) : x = .good a := by
  cases x with
  | good b => exact h
  | bad ps => cases h

theorem Checked.map_eq_good {α β : Type} {f : α → β} {x : Checked α} {b : β}
    (h : f <$> x = .good b) : ∃ a, x = .good a ∧ f a = b := by
  cases x with
  | good a => cases h; exact ⟨a, rfl, rfl⟩
  | bad ps => cases h

/-- What passes a check passes it in every spelling, with the same result. -/
def Check.Keeps {α : Type} (check : Check α) (spelling : Value → Value → Prop) : Prop :=
  ∀ v w a, spelling v w → check v = .good a → check w = .good a

/-- The same for a check of entries. -/
def FieldsKeep {α : Type} (forms : List FieldForm) (check : List (Scalar × Value) → Checked α) :
    Prop :=
  ∀ e e' a, (∀ f ∈ forms, f.Spells e e') → check e = .good a → check e' = .good a

theorem Check.keeps_eq {α : Type} (check : Check α) : check.Keeps Eq := by
  rintro v w a rfl h
  exact h

theorem Check.items_of_forall₂ {α : Type} {check : Check α} {item : Value → Value → Prop}
    (hc : check.Keeps item) {vs ws : List Value} (h : List.Forall₂ item vs ws) {index : Nat}
    {as : List α} (hvs : Check.items check index vs = .good as) :
    Check.items check index ws = .good as := by
  induction h generalizing index as with
  | nil => exact hvs
  | cons hvw _ ih =>
    obtain ⟨a, rest, hv, hrest, rfl⟩ := Checked.both_eq_good hvs
    rw [Check.items, hc _ _ a hvw (Checked.of_within hv), ih hrest]
    rfl

theorem Check.keeps_list {α : Type} {check : Check α} {item : Value → Value → Prop}
    (hc : check.Keeps item) : (Check.list check).Keeps (ListSpelling item) := by
  intro v w as h hv
  cases h with
  | same => exact hv
  | items vs ws h => exact Check.items_of_forall₂ hc h hv

theorem Check.keeps_record {α : Type} {forms : List FieldForm}
    {check : List (Scalar × Value) → Checked α} (hc : FieldsKeep forms check) (model : String) :
    (Check.record model check).Keeps (RecordSpelling forms) := by
  intro v w a h hv
  cases h with
  | same => exact hv
  | fields e e' h => exact hc e e' a h hv

namespace FieldsKeep

variable {α β : Type} {forms : List FieldForm}

theorem map {c : List (Scalar × Value) → Checked α} (hc : FieldsKeep forms c) (f : α → β) :
    FieldsKeep forms fun e => f <$> c e := by
  intro e e' b h hb
  obtain ⟨a, ha, rfl⟩ := Checked.map_eq_good hb
  show f <$> c e' = .good (f a)
  rw [hc e e' a h ha]
  rfl

theorem seq {c : List (Scalar × Value) → Checked (α → β)} {d : List (Scalar × Value) → Checked α}
    (hc : FieldsKeep forms c) (hd : FieldsKeep forms d) : FieldsKeep forms fun e => c e <*> d e := by
  intro e e' b h hb
  obtain ⟨g, a, hg, ha, rfl⟩ := Checked.both_eq_good hb
  show c e' <*> d e' = .good (g a)
  rw [hc e e' g h hg, hd e e' a h ha]
  rfl

variable {f : FieldForm} {check : Check α}

theorem required (hf : f ∈ forms) (hc : check.Keeps f.spelling) :
    FieldsKeep forms (required f.names check) := by
  intro e e' a h ha
  cases h f hf with
  | written v w hv hw hs =>
    obtain ⟨n, hn⟩ := hv.firstPresent_eq
    obtain ⟨m, hm⟩ := hw.firstPresent_eq
    rw [ScriptDoc.required, hn] at ha
    exact required_eq hm (hc v w a hs (Checked.of_within ha))
  | leftOut he =>
    rw [ScriptDoc.required, he.firstPresent_eq] at ha
    cases ha
  | blank v he =>
    rw [ScriptDoc.required, he.firstPresent_eq] at ha
    cases ha

theorem optional {default : α} (hf : f ∈ forms) (hc : check.Keeps f.spelling)
    (hb : ∀ v ∈ f.blank, check v = .good default) :
    FieldsKeep forms (optional f.names default check) := by
  intro e e' a h ha
  cases h f hf with
  | written v w hv hw hs =>
    obtain ⟨n, hn⟩ := hv.firstPresent_eq
    obtain ⟨m, hm⟩ := hw.firstPresent_eq
    rw [ScriptDoc.optional, hn] at ha
    exact optional_eq default hm (hc v w a hs (Checked.of_within ha))
  | leftOut he he' =>
    rw [ScriptDoc.optional, he.firstPresent_eq] at ha
    rw [ScriptDoc.optional, he'.firstPresent_eq, ha]
  | blank v he hv hblank =>
    obtain ⟨m, hm⟩ := hv.firstPresent_eq
    rw [ScriptDoc.optional, he.firstPresent_eq] at ha
    cases ha
    exact optional_eq default hm (hb v hblank)

theorem requiredText {names : List String} (hf : FieldForm.always names ∈ forms) :
    FieldsKeep forms (ScriptDoc.required names Check.text) :=
  required hf (Check.keeps_eq _)

theorem optionalText {names : List String} (hf : FieldForm.text names ∈ forms) :
    FieldsKeep forms (ScriptDoc.optional names none Check.text?) := by
  refine optional hf (Check.keeps_eq _) ?_
  rintro v ⟨⟩
  rfl

theorem optionalList {names : List String} {item : Value → Value → Prop}
    (hf : FieldForm.list names item ∈ forms) (hc : check.Keeps item) :
    FieldsKeep forms (ScriptDoc.optional names [] (Check.list check)) := by
  refine optional hf (Check.keeps_list hc) ?_
  rintro v ⟨⟩
  rfl

end FieldsKeep

/-! ### Records in other spellings -/

theorem Parameter.keeps_check : Parameter.check.Keeps (RecordSpelling Parameter.forms) := by
  have hname : FieldsKeep forms (ScriptDoc.required ["name", "arg_name"] Check.text) :=
    .requiredText (by simp [forms])
  have htype : FieldsKeep forms (ScriptDoc.required ["type", "arg_type"] Check.text) :=
    .requiredText (by simp [forms])
  have hdescription :
      FieldsKeep forms (optional ["description", "arg_description"] none Check.text?) :=
    .optionalText (by simp [forms])
  have hrequired : FieldsKeep forms (optional ["required", "arg_required"] true Check.flag) :=
    .optional (f := .always _) (by simp [forms]) (Check.keeps_eq _) nofun
  exact Check.keeps_record ((((hname.map _).seq htype).seq hdescription).seq hrequired) _

theorem FunctionRecord.keeps_check :
    FunctionRecord.check.Keeps (RecordSpelling FunctionRecord.forms) := by
  have hname : FieldsKeep forms (required ["name"] Check.text) := .requiredText (by simp [forms])
  have hshort :
      FieldsKeep forms (optional ["short_description", "description_short"] none Check.text?) :=
    .optionalText (by simp [forms])
  have hextended : FieldsKeep forms
      (optional ["extended_description", "description_extended"] [] (Check.list Check.text)) :=
    .optionalList (by simp [forms]) (Check.keeps_eq _)
  have husage : FieldsKeep forms (optional ["example"] none Check.text?) :=
    .optionalText (by simp [forms])
  have htype : FieldsKeep forms (optional ["return_type"] none Check.text?) :=
    .optionalText (by simp [forms])
  have hreturn : FieldsKeep forms (optional ["return_description"] none Check.text?) :=
    .optionalText (by simp [forms])
  have hparameters :
      FieldsKeep forms (optional ["parameters"] [] (Check.list Parameter.check)) :=
    .optionalList (by simp [forms]) Parameter.keeps_check
  have horigin : FieldsKeep forms (optional ["source_origin", "source_file"] none Check.text?) :=
    .optionalText (by simp [forms])
  have hgroups : FieldsKeep forms (optional ["groups"] [] (Check.list Check.text)) :=
    .optionalList (by simp [forms]) (Check.keeps_eq _)
  exact Check.keeps_record (((((((((hname.map _).seq hshort).seq hextended).seq husage).seq
    htype).seq hreturn).seq hparameters).seq horigin).seq hgroups) _

theorem Category.keeps_check : Category.check.Keeps (RecordSpelling Category.forms) := by
  have hname : FieldsKeep forms (required ["name", "category_name"] Check.text) :=
    .requiredText (by simp [forms])
  have hfunctions : FieldsKeep forms
      (optional ["functions", "category_functions"] [] (Check.list FunctionRecord.check)) :=
    .optionalList (by simp [forms]) FunctionRecord.keeps_check
  exact Check.keeps_record ((hname.map _).seq hfunctions) _

theorem EnumMember.keeps_check : EnumMember.check.Keeps (RecordSpelling EnumMember.forms) := by
  have hname : FieldsKeep forms (required ["name"] Check.text) := .requiredText (by simp [forms])
  have hvalue : FieldsKeep forms (optional ["value"] none Check.text?) :=
    .optionalText (by simp [forms])
  exact Check.keeps_record ((hname.map _).seq hvalue) _

theorem EnumRecord.keeps_check : EnumRecord.check.Keeps (RecordSpelling EnumRecord.forms) := by
  have hname : FieldsKeep forms (required ["name"] Check.text) := .requiredText (by simp [forms])
  have hvalues : FieldsKeep forms (optional ["values"] [] (Check.list EnumMember.check)) :=
    .optionalList (by simp [forms]) EnumMember.keeps_check
  exact Check.keeps_record ((hname.map _).seq hvalues) _

theorem GlobalRecord.keeps_check :
    GlobalRecord.check.Keeps (RecordSpelling GlobalRecord.forms) := by
  have hname : FieldsKeep forms (required ["name"] Check.text) := .requiredText (by simp [forms])
  have hvalue : FieldsKeep forms (optional ["value"] none Check.text?) :=
    .optionalText (by simp [forms])
  have hdescription : FieldsKeep forms (optional ["description"] none Check.text?) :=
    .optionalText (by simp [forms])
  have htype : FieldsKeep forms (optional ["type", "global_type"] none Check.text?) :=
    .optionalText (by simp [forms])
  exact Check.keeps_record ((((hname.map _).seq hvalue).seq hdescription).seq htype) _

theorem Document.keeps_check : Document.check.Keeps (RecordSpelling Document.forms) := by
  have hcategories : FieldsKeep forms (optional ["categories"] [] (Check.list Category.check)) :=
    .optionalList (by simp [forms]) Category.keeps_check
  have henums : FieldsKeep forms (optional ["enums"] [] (Check.list EnumRecord.check)) :=
    .optionalList (by simp [forms]) EnumRecord.keeps_check
  have hglobals : FieldsKeep forms (optional ["globals"] [] (Check.list GlobalRecord.check)) :=
    .optionalList (by simp [forms]) GlobalRecord.keeps_check
  exact Check.keeps_record (((hcategories.map _).seq henums).seq hglobals) _

/-- **Every spelling of a document is read as the document**, the one that is written included. -/
theorem Document.check_spelling (d : Document) :
    check d.wire = .good d ∧
      ∀ w, RecordSpelling Document.forms d.wire w → check w = .good d := by
  refine ⟨d.check_wire, fun w h => ?_⟩
  exact Document.keeps_check d.wire w d h d.check_wire

/-- A function of an older document: old names for some fields and new ones for others, old names that
do not count beside new ones, null and the empty list for what is left out, and an unknown name. -/
theorem Document.check_spelling_older :
    ∃ d w, RecordSpelling forms d.wire w ∧ check w = .good d ∧
      d.functions.map (·.name) = ["Util_Pos"] ∧ w.field? "revision" = some (.int 3) := by
  let p : Parameter := { name := "x", typeName := "Real", required := false }
  let wp : Value := .object [("arg_name", .text "x"), ("type", .text "Real"), ("arg_type", .null),
    ("arg_description", .null), ("arg_required", .bool false)]
  let f : FunctionRecord :=
    { name := "Util_Pos", shortDescription := some "", parameters := [p], origin := some "a" }
  let wf : Value := .object [("name", .text "Util_Pos"), ("description_short", .text ""),
    ("groups", .list []), ("source_file", .text "a"), ("parameters", .list [wp])]
  let c : Category := ⟨"Util", [f]⟩
  let wc : Value := .object [("category_name", .text "Util"), ("functions", .list [wf]),
    ("category_functions", .bool true)]
  have absent {e : List (Scalar × Value)} {name : String}
      (h : Value.lookup (.text name) e = none) : Absent e [name] := List.forall_mem_singleton.2 h
  have hp : RecordSpelling Parameter.forms p.wire wp := by
    refine .fields _ _ ?_
    simp only [Parameter.forms, List.forall_mem_cons]
    exact ⟨.written _ _ (.here _ rfl) (.later rfl (.here _ rfl)) rfl,
      .written _ _ (.here _ rfl) (.here _ rfl) rfl,
      .blank _ (List.forall_mem_cons.2 ⟨rfl, absent rfl⟩) (.later rfl (.here _ rfl)) rfl,
      .written _ _ (.here _ rfl) (.later rfl (.here _ rfl)) rfl, nofun⟩
  have hf : RecordSpelling FunctionRecord.forms f.wire wf := by
    refine .fields _ _ ?_
    simp only [FunctionRecord.forms, List.forall_mem_cons]
    exact ⟨.written _ _ (.here _ rfl) (.here _ rfl) rfl,
      .written _ _ (.here _ rfl) (.later rfl (.here _ rfl)) rfl,
      .leftOut (List.forall_mem_cons.2 ⟨rfl, absent rfl⟩) (List.forall_mem_cons.2 ⟨rfl, absent rfl⟩),
      .leftOut (absent rfl) (absent rfl), .leftOut (absent rfl) (absent rfl),
      .leftOut (absent rfl) (absent rfl),
      .written _ _ (.here _ rfl) (.here _ rfl) (.items _ _ (.cons hp .nil)),
      .written _ _ (.here _ rfl) (.later rfl (.here _ rfl)) rfl,
      .blank _ (absent rfl) (.here _ rfl) rfl, nofun⟩
  have hc : RecordSpelling Category.forms c.wire wc := by
    refine .fields _ _ ?_
    simp only [Category.forms, List.forall_mem_cons]
    exact ⟨.written _ _ (.later rfl (.here _ rfl)) (.later rfl (.here _ rfl)) rfl,
      .written _ _ (.later rfl (.here _ rfl)) (.here _ rfl) (.items _ _ (.cons hf .nil)), nofun⟩
  have hd : RecordSpelling forms (wire ⟨[c], [], []⟩)
      (.object [("revision", .int 3), ("categories", .list [wc])]) := by
    refine .fields _ _ ?_
    simp only [forms, List.forall_mem_cons]
    exact ⟨.written _ _ (.here _ rfl) (.here _ rfl) (.items _ _ (.cons hc .nil)),
      .leftOut (absent rfl) (absent rfl), .leftOut (absent rfl) (absent rfl), nofun⟩
  exact ⟨_, _, hd, (check_spelling _).2 _ hd, rfl, rfl⟩

end ScriptDoc
