import ScriptDoc.Proofs.Document.Storage
import ScriptDoc.Proofs.Yaml.Meaning

/-!
# Saving under a suffix of YAML

A document is always written as JSON, but a file with a suffix of YAML is read as YAML.  The two agree on
objects, lists and truth values, and on the texts of which YAML takes nothing away.

* `Value.texts`: the texts of a value;
* `Interchange.common`: what records are written as is the same in both languages if its texts are;
* `Document.load_save_yaml`: a document with such texts is loaded.
-/

namespace ScriptDoc

open ScriptDoc.Text

/-! ### Texts -/

namespace Value

mutual

/-- The texts of a value, but for the keys of maps. -/
def texts : Value → List String
  | .scalar (.text s) => [s]
  | .scalar _ => []
  | .list items => itemTexts items
  | .map entries => entryTexts entries
  | .set _ => []

/-- The texts of items. -/
def itemTexts : List Value → List String
  | [] => []
  | v :: rest => texts v ++ itemTexts rest

/-- The texts of the values of entries. -/
def entryTexts : List (Scalar × Value) → List String
  | [] => []
  | (_, v) :: rest => texts v ++ entryTexts rest

end

theorem itemTexts_eq (items : List Value) : itemTexts items = items.flatMap texts := by
  induction items with
  | nil => rfl
  | cons v items ih => rw [itemTexts, ih, List.flatMap_cons]

theorem texts_object (fields : List (String × Value)) :
    (object fields).texts = fields.flatMap fun f => f.2.texts := by
  rw [object_eq, texts]
  induction fields with
  | nil => rfl
  | cons f fields ih => rw [fieldEntries_cons, entryTexts, ih, List.flatMap_cons]

end Value

/-! ### Names -/

theorem keepsLines_of_no_separators {cs : List Char}
    (h : ∀ c ∈ cs, Yaml.isLineSeparator c = false) : Yaml.keepsLines cs = true := by
  induction cs with
  | nil => rfl
  | cons c cs ih =>
    rw [List.forall_mem_cons] at h
    have hnext : cs.head?.any Yaml.isLineSeparator = false := by
      cases cs with
      | nil => rfl
      | cons d cs => simpa using h.2 d List.mem_cons_self
    simp [Yaml.keepsLines, h.1, hnext, ih h.2]

theorem isShortKey_of_isFieldName {name : String} (h : isFieldName name = true) :
    Yaml.isShortKey name = true := by
  rw [isFieldName, Bool.and_eq_true, List.all_eq_true, decide_eq_true_eq] at h
  have hall : fieldNameChars.all (fun c => Json.charText false c == [c] && Yaml.isCommonChar c
      && !Yaml.isLineSeparator c) = true := by decide
  have hchars : ∀ c ∈ name.toList, Json.charText false c = [c] ∧ Yaml.isCommonChar c = true ∧
      Yaml.isLineSeparator c = false := fun c hc => by
    simpa [and_assoc] using List.all_eq_true.1 hall c (List.contains_iff_mem.1 (h.1 c hc))
  have hlines : ∀ c ∈ name.toList, Yaml.isLineSeparator c = false := fun c hc => (hchars c hc).2.2
  have hcommon : Yaml.isCommonText name = true := by
    rw [Yaml.isCommonText, Bool.and_eq_true, List.all_eq_true]
    exact ⟨fun c hc => (hchars c hc).2.1, keepsLines_of_no_separators hlines⟩
  have htext : name.toList.flatMap (Json.charText false) = name.toList := by
    rw [List.flatMap_congr fun c hc => (hchars c hc).1, List.flatMap_singleton']
  have hlength : (Json.stringText false name).length ≤ Yaml.Lexer.maxKeyLength := by
    rw [Json.stringText, htext, List.length_append, List.length_cons, List.length_singleton]
    exact le_trans (Nat.add_le_add_right (Nat.succ_le_succ h.2) 1) (by decide)
  simpa [Yaml.isShortKey, hcommon, hlength] using hlines

/-- What records are written as is the same in both languages if its texts are. -/
theorem Interchange.common {room : Nat} {v : Value} (h : Interchange room v)
    (ht : ∀ s ∈ v.texts, Yaml.isCommonText s = true) : Yaml.Common room v := by
  induction h with
  | bool b => exact .bool b
  | text s => exact .text (ht s (by simp [Value.text, Value.texts]))
  | list _ ih =>
    rw [Value.texts, Value.itemTexts_eq] at ht
    exact .list fun v hv => ih v hv fun s hs => ht s (List.mem_flatMap.2 ⟨v, hv, hs⟩)
  | object distinct names _ ih =>
    rw [Value.texts_object] at ht
    exact .object distinct (fun f hf => isShortKey_of_isFieldName (names f hf))
      fun f hf => ih f hf fun s hs => ht s (List.mem_flatMap.2 ⟨f, hf, hs⟩)

namespace Document

theorem ofPath_eq_yaml {p : Path} (h : lowered p.suffix = ".yaml" ∨ lowered p.suffix = ".yml") :
    Format.ofPath p = .yaml := by
  dsimp only [Format.ofPath]
  rcases h with h | h <;> rw [h] <;> rfl

theorem objectOf_fileText_yaml (limits : NestingLimits) (indent : Option Nat) {d : Document}
    (ht : ∀ s ∈ d.wire.texts, Yaml.isCommonText s = true) :
    objectOf limits .yaml (fileText indent d) = .ok d.wire := by
  have hcommon := (d.interchange_of_ge limits.yaml_ge).common ht
  rw [wire_eq] at hcommon
  have hread := @Yaml.read_renderAt { indent } rfl _ _ hcommon
  rw [← wire_eq, ← toList_fileText] at hread
  rw [objectOf, parseContent]
  simp only [beq_self_eq_true, if_true, parseYaml, hread]
  rw [wire_eq]
  rfl

/-- **A document that was saved under a suffix of YAML is loaded again**, if YAML reads its texts as JSON
does: from every source that leads to the path and is no address. -/
theorem load_save_yaml {indent : Option Nat} {path source : String} {d : Document} {s : Surroundings}
    {w v : Workspace} {p : Path} (hsource : Path.ofString source = Path.ofString path)
    (hhttp : ¬ "http://".toList <+: source.toList) (hhttps : ¬ "https://".toList <+: source.toList)
    (hsuffix : lowered (Path.ofString path).suffix = ".yaml" ∨
      lowered (Path.ofString path).suffix = ".yml")
    (ht : ∀ s ∈ d.wire.texts, Yaml.isCommonText s = true)
    (h : save indent path d s w = (.ok p, v)) (t : Surroundings) : load source t v = (.ok d, v) := by
  rw [← hsource] at hsuffix
  have hdash : source ≠ "-" := by
    rintro rfl
    revert hsuffix
    decide
  have hobject (limits : NestingLimits) :
      objectOf limits (.ofPath (Path.ofString source)) (fileText indent d) = .ok d.wire := by
    rw [ofPath_eq_yaml hsuffix]
    exact objectOf_fileText_yaml limits indent ht
  have hstat := Workspace.stat_of_write (write_of_save h)
  rw [← hsource] at hstat
  exact load_of_stat (ofString_file hdash hhttp hhttps) hobject hstat t

/-- A global whose name holds a separator of lines between letters, a backslash and a tabulator, and a
category whose name starts with a mark of a document, loaded by another spelling of the path. -/
theorem load_save_yaml_separator :
    ∃ v, save none "out/notes.YML"
          ⟨[⟨"--- ", [{ name := "Run" }]⟩], [], [{ name := "a\u2028b\\\t", value := some "yes" }]⟩ {} {}
        = (.ok ⟨"", ["out", "notes.YML"]⟩, v) ∧
      load "./out//notes.YML" {} v
        = (.ok ⟨[⟨"--- ", [{ name := "Run" }]⟩], [], [{ name := "a\u2028b\\\t", value := some "yes" }]⟩, v) := by
  have h : save none "out/notes.YML"
        ⟨[⟨"--- ", [{ name := "Run" }]⟩], [], [{ name := "a\u2028b\\\t", value := some "yes" }]⟩ {} {}
      = (.ok ⟨"", ["out", "notes.YML"]⟩, _) := rfl
  exact ⟨_, h, load_save_yaml (by decide) (by decide) (by decide) (by decide) (by decide +kernel) h {}⟩

/-- A next line ends a line for YAML and becomes a blank. Neither is a text loaded again in which a blank
stands before or after a separator of lines, a mark of a document after one, or a character that YAML does
not allow; and what looks like an address is asked for at a server. -/
theorem load_save_yaml_changes :
    (save (some 2) "notes.yaml" ⟨[], [], [{ name := "a\u0085b" }]⟩ {} {}).1 = .ok ⟨"", ["notes.yaml"]⟩ ∧
      (load "notes.yaml" {} (save (some 2) "notes.yaml" ⟨[], [], [{ name := "a\u0085b" }]⟩ {} {}).2).1
        = .ok ⟨[], [], [{ name := "a b" }]⟩ ∧
      (∀ name ∈ ["a \u2028", "\u2029 b", "\u2028--- b", "\u2029...\u2028", "\u007f"],
        (load "notes.yaml" {} (save none "notes.yaml" ⟨[], [], [{ name }]⟩ {} {}).2).1
          ≠ .ok ⟨[], [], [{ name }]⟩) ∧
      (load "http://notes.yaml" {} (save (some 2) "http://notes.yaml" {} {} {}).2).1
        = .error (.failure (.fetchFailed "http://notes.yaml" "refused")) :=
  ⟨by decide +kernel, by decide +kernel, by decide +kernel, by decide +kernel⟩

end Document

end ScriptDoc
