import ScriptDoc.Proofs.Settings.Resolution

/-!
# The fields of the settings

Settings are good if each of their fields is, and then they hold what the checks of the fields give.

* `ParserSettings.check_eq_good_iff` and its siblings: the fields of one section;
* `Settings.Leaf`, the fields of all sections, each with its check and its interchange form;
* `Settings.check_eq_good_iff`.
-/

namespace ScriptDoc

variable {α : Type}

/-! ### Sections -/

theorem Checked.map_eq_good_iff {β : Type} {f : α → β} {x : Checked α} {b : β} :
    f <$> x = .good b ↔ ∃ a, x = .good a ∧ f a = b := by
  refine ⟨Checked.map_eq_good, ?_⟩
  rintro ⟨a, rfl, rfl⟩
  rfl

theorem Checked.seq_eq_good_iff {β : Type} {f : Checked (α → β)} {x : Checked α} {b : β} :
    f <*> x = .good b ↔ ∃ g a, f = .good g ∧ x = .good a ∧ g a = b := by
  refine ⟨Checked.both_eq_good, ?_⟩
  rintro ⟨g, a, rfl, rfl, rfl⟩
  rfl

theorem optional_eq_good_iff {name : String} {default a : α} {c : Check α}
    {entries : List (Scalar × Value)} {value : Value}
    (h : Value.lookup (.text name) entries = some value) :
    optional [name] default c entries = .good a ↔ c value = .good a := by
  rw [Settings.optional_of_lookup h]
  refine ⟨Checked.of_within, fun hvalue => ?_⟩
  rw [hvalue]
  rfl

theorem ParserSettings.check_eq_good_iff {fields : List (Scalar × Value)} {marker strict : Value}
    (hmarker : Value.lookup (.text "marker") fields = some marker)
    (hstrict : Value.lookup (.text "strict") fields = some strict) (p : ParserSettings) :
    check (.map fields) = .good p ↔
      Check.someText marker = .good p.marker ∧ Check.flag strict = .good p.strict := by
  simp only [check, Check.record, Checked.seq_eq_good_iff, Checked.map_eq_good_iff,
    optional_eq_good_iff hmarker, optional_eq_good_iff hstrict]
  constructor
  · rintro ⟨_, _, ⟨_, h₁, rfl⟩, h₂, rfl⟩
    exact ⟨h₁, h₂⟩
  · rintro ⟨h₁, h₂⟩
    exact ⟨_, _, ⟨_, h₁, rfl⟩, h₂, rfl⟩

theorem DiscoverySettings.check_eq_good_iff {fields : List (Scalar × Value)}
    {extensions exclude respect : Value}
    (hextensions : Value.lookup (.text "extensions") fields = some extensions)
    (hexclude : Value.lookup (.text "exclude") fields = some exclude)
    (hrespect : Value.lookup (.text "respect_gitignore") fields = some respect)
    (d : DiscoverySettings) :
    check (.map fields) = .good d ↔
      Check.list Check.text extensions = .good d.extensions ∧
        Check.list Check.text exclude = .good d.exclude ∧
        Check.flag respect = .good d.respectIgnoreFile := by
  simp only [check, Check.record, Checked.seq_eq_good_iff, Checked.map_eq_good_iff,
    optional_eq_good_iff hextensions, optional_eq_good_iff hexclude, optional_eq_good_iff hrespect]
  constructor
  · rintro ⟨_, _, ⟨_, _, ⟨_, h₁, rfl⟩, h₂, rfl⟩, h₃, rfl⟩
    exact ⟨h₁, h₂, h₃⟩
  · rintro ⟨h₁, h₂, h₃⟩
    exact ⟨_, _, ⟨_, _, ⟨_, h₁, rfl⟩, h₂, rfl⟩, h₃, rfl⟩

theorem DumpSettings.check_eq_good_iff {fields : List (Scalar × Value)} {dedupe : Value}
    (hdedupe : Value.lookup (.text "dedupe_first_enum_value") fields = some dedupe)
    (u : DumpSettings) :
    check (.map fields) = .good u ↔ Check.flag dedupe = .good u.dedupeFirstMember := by
  simp only [check, Check.record, Checked.map_eq_good_iff, optional_eq_good_iff hdedupe]
  exact ⟨by rintro ⟨_, h, rfl⟩; exact h, fun h => ⟨_, h, rfl⟩⟩

theorem MergeSettings.check_eq_good_iff {fields : List (Scalar × Value)} {cumulative : Value}
    (hcumulative : Value.lookup (.text "cumulative") fields = some cumulative) (m : MergeSettings) :
    check (.map fields) = .good m ↔ Check.flag cumulative = .good m.cumulative := by
  simp only [check, Check.record, Checked.map_eq_good_iff, optional_eq_good_iff hcumulative]
  exact ⟨by rintro ⟨_, h, rfl⟩; exact h, fun h => ⟨_, h, rfl⟩⟩

theorem OutputSettings.check_eq_good_iff {fields : List (Scalar × Value)} {path indent format : Value}
    (hpath : Value.lookup (.text "path") fields = some path)
    (hindent : Value.lookup (.text "indent") fields = some indent)
    (hformat : Value.lookup (.text "format") fields = some format) (o : OutputSettings) :
    check (.map fields) = .good o ↔
      Check.text path = .good o.path ∧ Check.natural indent = .good o.indent ∧
        Check.text format = .good o.format := by
  simp only [check, Check.record, Checked.seq_eq_good_iff, Checked.map_eq_good_iff,
    optional_eq_good_iff hpath, optional_eq_good_iff hindent, optional_eq_good_iff hformat]
  constructor
  · rintro ⟨_, _, ⟨_, _, ⟨_, h₁, rfl⟩, h₂, rfl⟩, h₃, rfl⟩
    exact ⟨h₁, h₂, h₃⟩
  · rintro ⟨h₁, h₂, h₃⟩
    exact ⟨_, _, ⟨_, _, ⟨_, h₁, rfl⟩, h₂, rfl⟩, h₃, rfl⟩

namespace Settings

/-! ### The fields of the settings -/

/-- The fields of the settings, by the type of what they hold. -/
inductive Leaf : Type → Type where
  | marker : Leaf String
  | strict : Leaf Bool
  | extensions : Leaf (List String)
  | exclude : Leaf (List String)
  | respectIgnoreFile : Leaf Bool
  | dedupeFirstMember : Leaf Bool
  | cumulative : Leaf Bool
  | path : Leaf String
  | indent : Leaf Nat
  | format : Leaf String

namespace Leaf

/-- The section that a field is in. -/
def sectionName : Leaf α → String
  | .marker | .strict => "parser"
  | .extensions | .exclude | .respectIgnoreFile => "discovery"
  | .dedupeFirstMember => "dump"
  | .cumulative => "merge"
  | .path | .indent | .format => "output"

/-- The name of a field in its section. -/
def name : Leaf α → String
  | .marker => "marker"
  | .strict => "strict"
  | .extensions => "extensions"
  | .exclude => "exclude"
  | .respectIgnoreFile => "respect_gitignore"
  | .dedupeFirstMember => "dedupe_first_enum_value"
  | .cumulative => "cumulative"
  | .path => "path"
  | .indent => "indent"
  | .format => "format"

/-- The check that the value of a field must pass. -/
def check : Leaf α → Check α
  | .marker => Check.someText
  | .path | .format => Check.text
  | .indent => Check.natural
  | .extensions | .exclude => Check.list Check.text
  | .strict | .respectIgnoreFile | .dedupeFirstMember | .cumulative => Check.flag

/-- The interchange form of what a field holds. -/
def wire : Leaf α → α → Value
  | .marker | .path | .format => Value.text
  | .indent => fun n => .int n
  | .extensions | .exclude => fun texts => .list (texts.map .text)
  | .strict | .respectIgnoreFile | .dedupeFirstMember | .cumulative => Value.bool

/-- What a field holds. -/
def get : Leaf α → Settings → α
  | .marker, c => c.parser.marker
  | .strict, c => c.parser.strict
  | .extensions, c => c.discovery.extensions
  | .exclude, c => c.discovery.exclude
  | .respectIgnoreFile, c => c.discovery.respectIgnoreFile
  | .dedupeFirstMember, c => c.dump.dedupeFirstMember
  | .cumulative, c => c.merge.cumulative
  | .path, c => c.output.path
  | .indent, c => c.output.indent
  | .format, c => c.output.format

/-- A field is replaced as a whole: its value is a scalar or a list, never an object. -/
theorem wire_ne_map (l : Leaf α) (a : α) (entries : List (Scalar × Value)) :
    l.wire a ≠ .map entries := by
  cases l <;> exact Value.noConfusion

theorem lookup_wire (l : Leaf α) (g : Settings) :
    ∃ fields, g.wire.field? l.sectionName = some (.map fields) ∧
      Value.lookup (.text l.name) fields = some (l.wire (l.get g)) := by
  cases l <;> exact ⟨_, rfl, rfl⟩

/-- Settings are made of what their fields hold. -/
theorem exists_settings {P : ∀ {α : Type}, Leaf α → α → Prop}
    (h : ∀ {α : Type} (l : Leaf α), ∃ a, P l a) :
    ∃ c : Settings, ∀ {α : Type} (l : Leaf α), P l (l.get c) := by
  obtain ⟨marker, hmarker⟩ := h .marker
  obtain ⟨strict, hstrict⟩ := h .strict
  obtain ⟨extensions, hextensions⟩ := h .extensions
  obtain ⟨exclude, hexclude⟩ := h .exclude
  obtain ⟨respect, hrespect⟩ := h .respectIgnoreFile
  obtain ⟨dedupe, hdedupe⟩ := h .dedupeFirstMember
  obtain ⟨cumulative, hcumulative⟩ := h .cumulative
  obtain ⟨path, hpath⟩ := h .path
  obtain ⟨indent, hindent⟩ := h .indent
  obtain ⟨format, hformat⟩ := h .format
  refine ⟨⟨⟨marker, strict⟩, ⟨extensions, exclude, respect⟩, ⟨dedupe⟩, ⟨cumulative⟩,
    ⟨path, indent, format⟩⟩, fun l => ?_⟩
  cases l <;> assumption

end Leaf

/-! ### Checking field by field -/

theorem hasSection_of_sectionField? {data value : Value} {sectionName field : String}
    (h : sectionField? data sectionName field = some value) : data.HasSection sectionName := by
  obtain ⟨fields, hfields, hvalue⟩ := Option.bind_eq_some_iff.1 h
  cases fields with
  | map entries => exact ⟨entries, hfields⟩
  | _ => cases hvalue

theorem check_eq_good_iff_sections {sections : List (Scalar × Value)}
    {parser discovery dump merge output : Value}
    (hparser : Value.lookup (.text "parser") sections = some parser)
    (hdiscovery : Value.lookup (.text "discovery") sections = some discovery)
    (hdump : Value.lookup (.text "dump") sections = some dump)
    (hmerge : Value.lookup (.text "merge") sections = some merge)
    (houtput : Value.lookup (.text "output") sections = some output) (c : Settings) :
    check (.map sections) = .good c ↔
      ParserSettings.check parser = .good c.parser ∧
        DiscoverySettings.check discovery = .good c.discovery ∧
        DumpSettings.check dump = .good c.dump ∧
        MergeSettings.check merge = .good c.merge ∧ OutputSettings.check output = .good c.output := by
  simp only [check, Check.record, Checked.seq_eq_good_iff, Checked.map_eq_good_iff,
    optional_eq_good_iff hparser, optional_eq_good_iff hdiscovery, optional_eq_good_iff hdump,
    optional_eq_good_iff hmerge, optional_eq_good_iff houtput]
  constructor
  · rintro ⟨_, _, ⟨_, _, ⟨_, _, ⟨_, _, ⟨_, h₁, rfl⟩, h₂, rfl⟩, h₃, rfl⟩, h₄, rfl⟩, h₅, rfl⟩
    exact ⟨h₁, h₂, h₃, h₄, h₅⟩
  · rintro ⟨h₁, h₂, h₃, h₄, h₅⟩
    exact ⟨_, _, ⟨_, _, ⟨_, _, ⟨_, _, ⟨_, h₁, rfl⟩, h₂, rfl⟩, h₃, rfl⟩, h₄, rfl⟩, h₅, rfl⟩

/-- Settings are good if each of their fields passes its check, and then they hold what the checks give. -/
theorem check_eq_good_iff {data : Value} {x : ∀ {α : Type}, Leaf α → Value}
    (h : ∀ {α : Type} (l : Leaf α), sectionField? data l.sectionName l.name = some (x l))
    (c : Settings) :
    check data = .good c ↔ ∀ {α : Type} (l : Leaf α), l.check (x l) = .good (l.get c) := by
  have hlookup {α : Type} (l : Leaf α) {fields : List (Scalar × Value)}
      (hsection : data.field? l.sectionName = some (.map fields)) :
      Value.lookup (.text l.name) fields = some (x l) := by
    rw [← h l, sectionField?, hsection]
    rfl
  obtain ⟨parser, hparser⟩ := hasSection_of_sectionField? (h .marker)
  obtain ⟨discovery, hdiscovery⟩ := hasSection_of_sectionField? (h .extensions)
  obtain ⟨dump, hdump⟩ := hasSection_of_sectionField? (h .dedupeFirstMember)
  obtain ⟨merge, hmerge⟩ := hasSection_of_sectionField? (h .cumulative)
  obtain ⟨output, houtput⟩ := hasSection_of_sectionField? (h .path)
  cases data with
  | map sections =>
    rw [check_eq_good_iff_sections hparser hdiscovery hdump hmerge houtput,
      ParserSettings.check_eq_good_iff (hlookup .marker hparser) (hlookup .strict hparser),
      DiscoverySettings.check_eq_good_iff (hlookup .extensions hdiscovery) (hlookup .exclude hdiscovery)
        (hlookup .respectIgnoreFile hdiscovery),
      DumpSettings.check_eq_good_iff (hlookup .dedupeFirstMember hdump),
      MergeSettings.check_eq_good_iff (hlookup .cumulative hmerge),
      OutputSettings.check_eq_good_iff (hlookup .path houtput) (hlookup .indent houtput)
        (hlookup .format houtput)]
    constructor
    · rintro ⟨⟨hmarker, hstrict⟩, ⟨hextensions, hexclude, hrespect⟩, hdedupe, hcumulative, hpath,
        hindent, hformat⟩ α l
      cases l <;> assumption
    · intro hall
      exact ⟨⟨hall .marker, hall .strict⟩, ⟨hall .extensions, hall .exclude, hall .respectIgnoreFile⟩,
        hall .dedupeFirstMember, hall .cumulative, hall .path, hall .indent, hall .format⟩
  | _ => cases hparser

end Settings

end ScriptDoc
