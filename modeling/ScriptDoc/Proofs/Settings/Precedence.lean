import ScriptDoc.Proofs.Json.Keys
import ScriptDoc.Proofs.Settings.Fields
import ScriptDoc.Proofs.Text.Blank

/-!
# Precedence of the layers

Each field of the settings has the value of the highest layer that sets it: the command line, then the
environment, then the project's file, then the settings of the user.  Layers below do not show through,
and a layer changes no field that it does not set.

* `Settings.layeredValue`, the value of the highest layer;
* `Settings.assignAll_of_hasSection`, `Settings.sectionField?_onFiles`: what setting fields and what the
  two files leave under each field;
* `Settings.resolve_precedence`.
-/

namespace ScriptDoc

namespace Settings

variable {α : Type} {s : Surroundings} {w v : Workspace}

/-! ### The value of the highest layer -/

/-- What the command line sets. -/
def Overrides.get? (cli : Overrides) : Leaf α → Option α
  | .marker => cli.marker
  | .strict => cli.strict
  | .path => cli.output
  | .format => cli.format
  | _ => none

/-- The truth value that the environment has for strictness. A blank is false. -/
def environmentStrict? (s : Surroundings) : Option Bool :=
  (s.environment.lookup "SCARDOC_STRICT").bind fun raw =>
    if Text.allBlank raw then some false else flag? raw

/-- What the environment sets: a text if it is not empty, and a truth value in any case. -/
def environmentGet? (s : Surroundings) : Leaf α → Option α
  | .marker => (s.environment.lookup "SCARDOC_MARKER").filter (!·.isEmpty)
  | .strict => environmentStrict? s
  | .path => (s.environment.lookup "SCARDOC_OUTPUT").filter (!·.isEmpty)
  | _ => none

/-- What the project's file has under a field. -/
def projectGet? (project : Option Value) (l : Leaf α) : Option Value :=
  project.bind fun p => sectionField? p l.sectionName l.name

/-- The value of a field in the highest layer that sets it. -/
def layeredValue (cli : Overrides) (s : Surroundings) (project : Option Value) (g : Settings)
    (l : Leaf α) : Value :=
  match cli.get? l, environmentGet? s l, projectGet? project l with
  | some a, _, _ => l.wire a
  | none, some a, _ => l.wire a
  | none, none, some value => value
  | none, none, none => l.wire (l.get g)

/-! ### Fields that are set one after another -/

/-- What an assignment leaves under a field where `old` was before. -/
def Assignment.onto (a : Assignment) (sectionName field : String) (old : Option Value) :
    Option Value :=
  if a.sectionName = sectionName ∧ a.field = field then a.value?.or old else old

theorem assign_of_hasSection (a : Assignment) {data : Value} (h : data.HasSection a.sectionName)
    (s : Surroundings) (w : Workspace) :
    ∃ data', assign a.sectionName a.field a.value? data s w = (.ok data', w) ∧
      ∀ sectionName field, sectionField? data' sectionName field =
        a.onto sectionName field (sectionField? data sectionName field) := by
  obtain ⟨hnone, ha⟩ | ⟨value, sections, fields, hsome, rfl, hsection, ha⟩ | ⟨-, hno, -⟩ :=
    assign_cases a.sectionName a.field a.value? data s w
  · refine ⟨data, ha, fun sectionName field => ?_⟩
    rw [Assignment.onto, hnone, Option.none_or, ite_self]
  · refine ⟨_, ha, fun sectionName field => ?_⟩
    rw [Assignment.onto, hsome, Option.some_or]
    simp only [sectionField?, Value.field?, Value.lookup_insert]
    by_cases hname : a.sectionName = sectionName
    · subst hname
      simp only [if_true, true_and, hsection, Option.bind_some, Value.lookup_insert]
    · simp only [hname, if_false, false_and]
  · exact absurd h hno

/-- Fields of sections that are there can be set, and the last value that is set is what a field has. -/
theorem assignAll_of_hasSection {as : List Assignment} {data : Value}
    (h : ∀ a ∈ as, data.HasSection a.sectionName) (s : Surroundings) (w : Workspace) :
    ∃ data', assignAll as data s w = (.ok data', w) ∧
      ∀ sectionName field, sectionField? data' sectionName field =
        as.foldl (fun old a => a.onto sectionName field old)
          (sectionField? data sectionName field) := by
  induction as generalizing data with
  | nil => exact ⟨data, rfl, fun _ _ => rfl⟩
  | cons a rest ih =>
    rw [List.forall_mem_cons] at h
    obtain ⟨data₁, hassign, hfields₁⟩ := assign_of_hasSection a h.1 s w
    obtain ⟨data₂, hrest, hfields₂⟩ := ih fun b hb => (hasSection_of_assign hassign _).2 (h.2 b hb)
    refine ⟨data₂, ?_, fun sectionName field => ?_⟩
    · rw [assignAll, Work.bind_of_ok hassign, hrest]
    · rw [hfields₂, hfields₁, List.foldl_cons]

/-! ### The environment and the command line -/

theorem flag?_of_allBlank {raw : String} (h : Text.allBlank raw = true) : flag? raw = some false := by
  rw [flag?, Text.trimmed_of_allBlank h]
  decide

theorem environmentFlag_of_flagReadable {name : String} (h : FlagReadable s name) (w : Workspace) :
    environmentFlag name s w = (.ok ((s.environment.lookup name).bind flag?), w) := by
  rw [environmentFlag,
    Work.bind_of_ok (rfl : Work.environmentValue name s w = (.ok (s.environment.lookup name), w))]
  cases hraw : s.environment.lookup name with
  | none => rfl
  | some raw =>
    obtain ⟨b, hb⟩ := Option.isSome_iff_exists.1 (h raw hraw)
    simp only [hb, Option.bind_some]
    rfl

/-- All that the environment and the command line set, in the order in which it is set. -/
def allLayers (cli : Overrides) (s : Surroundings) : List Assignment :=
  ⟨"parser", "marker", ((s.environment.lookup "SCARDOC_MARKER").filter (!·.isEmpty)).map .text⟩ ::
    upperLayers cli s ((s.environment.lookup "SCARDOC_STRICT").bind flag?)

theorem onTop_eq_assignAll (cli : Overrides) (data : Value) (h : FlagReadable s "SCARDOC_STRICT")
    (w : Workspace) : onTop cli s data s w = assignAll (allLayers cli s) data s w := by
  rw [onTop, allLayers, assignAll]
  rcases hmarker : assign "parser" "marker"
    (((s.environment.lookup "SCARDOC_MARKER").filter (!·.isEmpty)).map .text) data s w with ⟨_ | data', v⟩
  · rw [Work.bind_of_error hmarker, Work.bind_of_error hmarker]
  · rw [Work.bind_of_ok hmarker, Work.bind_of_ok hmarker,
      Work.bind_of_ok (environmentFlag_of_flagReadable h v)]

theorem environmentStrict?_eq (s : Surroundings) :
    environmentStrict? s = (s.environment.lookup "SCARDOC_STRICT").bind flag? := by
  refine Option.bind_congr fun raw _ => ?_
  split
  · next h => exact (flag?_of_allBlank h).symm
  · rfl

/-- What all assignments leave under a field: what the command line sets, or else the environment, or
else what was there before. -/
theorem foldl_allLayers (cli : Overrides) (s : Surroundings) (l : Leaf α) (old : Option Value) :
    (allLayers cli s).foldl (fun old a => a.onto l.sectionName l.name old) old =
      (((cli.get? l).or (environmentGet? s l)).map l.wire).or old := by
  cases l
  all_goals
    simp [allLayers, upperLayers, Assignment.onto, Leaf.sectionName, Leaf.name, Leaf.wire,
      Overrides.get?, environmentGet?, environmentStrict?_eq, Option.map_or, Option.or_assoc]

/-! ### The two files -/

/-- What a file of settings holds is an object, and so are the objects in it. -/
theorem keyed_of_readObject {file : SettingsFile} {p : Path} {data : Value}
    (h : readObject file p s w = (.ok data, v)) : data.Keyed ∧ ∃ entries, data = .map entries := by
  obtain ⟨bytes, u, -, h⟩ := Work.ok_of_bind h
  cases htext : Workspace.strictText bytes with
  | error e =>
    rw [htext] at h
    cases h
  | ok text =>
    rw [htext] at h
    obtain ⟨_, _, hs, h⟩ := Work.ok_of_bind h
    cases hs
    cases hread : Json.read text.toList s.limits with
    | error e => cases e <;> simp [hread, Work.fail, Work.crash] at h
    | ok value =>
      cases value with
      | map entries =>
        simp only [hread] at h
        cases h
        exact ⟨Json.keyed_of_read hread, entries, rfl⟩
      | _ => simp [hread, Work.fail] at h

theorem keyed_of_loadProject {p : Value} (h : loadProject s w = (.ok (some p), v)) :
    p.Keyed ∧ ∃ entries, p = .map entries := by
  obtain ⟨path, u, -, h⟩ := Work.ok_of_bind h
  obtain ⟨isFile, u', -, h⟩ := Work.ok_of_bind h
  split at h
  · obtain ⟨data, u'', hread, h⟩ := Work.ok_of_bind h
    cases h
    exact keyed_of_readObject hread
  · cases h

/-- An update of one field: a value that is no object is replaced as a whole, and what the update does
not have stays. -/
theorem sectionField?_overlay {base update value : Value} {sectionName field : String}
    {fields : List (Scalar × Value)} (hbase : base.field? sectionName = some (.map fields))
    (hfield : Value.lookup (.text field) fields = some value) (hvalue : ∀ entries, value ≠ .map entries)
    (hkeyed : update.Keyed) (hmap : ∃ entries, update = .map entries)
    (hsection : ∀ v, update.field? sectionName = some v → ∃ entries, v = .map entries) :
    sectionField? (base.overlay update) sectionName field =
      some ((sectionField? update sectionName field).getD value) := by
  have hsections : (base.overlay update).field? sectionName =
      Value.updated (some (.map fields)) (update.field? sectionName) := by
    cases base with
    | map old => rw [Value.field?_overlay old sectionName hkeyed hmap, ← hbase, Value.field?]
    | _ => cases hbase
  cases hnew : update.field? sectionName with
  | none =>
    rw [sectionField?, hsections, sectionField?, hnew]
    exact hfield
  | some x =>
    -- both have the section, and so the same goes one level down
    have hfields := Value.field?_overlay fields field (hkeyed.of_field? hnew) (hsection x hnew)
    rw [sectionField?, hsections, sectionField?, hnew]
    change (Value.overlay (.map fields) x).field? field = some ((x.field? field).getD value)
    rw [hfields, hfield]
    cases x.field? field with
    | none => rfl
    | some y => exact congrArg some (Value.overlay_of_not_map hvalue y)

/-- An object whose sections of settings, where it has them, are objects. -/
def ObjectSections (p : Value) : Prop :=
  ∀ {α : Type} (l : Leaf α) (value : Value), p.field? l.sectionName = some value →
    ∃ entries, value = .map entries

/-- The settings object of the two files has what the project's file has under a field, or else what
the user's settings hold. -/
theorem sectionField?_onFiles (g : Settings) {project : Option Value}
    (hproject : ∀ p ∈ project, p.Keyed ∧ ∃ entries, p = .map entries)
    (hsections : ∀ p ∈ project, ObjectSections p) (l : Leaf α) :
    sectionField? (onFiles g project) l.sectionName l.name =
      some ((projectGet? project l).getD (l.wire (l.get g))) := by
  obtain ⟨fields, hfields, hvalue⟩ := l.lookup_wire g
  cases project with
  | none =>
    rw [onFiles, sectionField?, hfields]
    exact hvalue
  | some p =>
    obtain ⟨hkeyed, hmap⟩ := hproject p rfl
    exact sectionField?_overlay hfields hvalue (l.wire_ne_map _) hkeyed hmap (hsections p rfl l)

/-! ### All layers -/

/-- The settings object of all layers has, under each field, the value of the highest layer. -/
theorem sectionField?_layered (cli : Overrides) {g : Settings} {project : Option Value}
    (hglobal : loadGlobal s w = (.ok g, v)) (hproject : loadProject s v = (.ok project, v))
    (hsections : ∀ p ∈ project, ObjectSections p) (hstrict : FlagReadable s "SCARDOC_STRICT") :
    ∃ data, layered cli s w = (.ok data, v) ∧ ∀ {α : Type} (l : Leaf α),
      sectionField? data l.sectionName l.name = some (layeredValue cli s project g l) := by
  have hkeyed : ∀ p ∈ project, p.Keyed ∧ ∃ entries, p = .map entries := by
    rintro p rfl
    exact keyed_of_loadProject hproject
  have hfiles {α : Type} (l : Leaf α) := sectionField?_onFiles g hkeyed hsections l
  -- a section that has one of its fields after the files is an object
  have hparser := hasSection_of_sectionField? (hfiles .marker)
  have houtput := hasSection_of_sectionField? (hfiles .path)
  have hassigned : ∀ a ∈ allLayers cli s, (onFiles g project).HasSection a.sectionName := by
    simp only [allLayers, upperLayers, List.forall_mem_cons]
    exact ⟨hparser, hparser, houtput, hparser, hparser, houtput, houtput, by simp⟩
  obtain ⟨data, hdata, hfields⟩ := assignAll_of_hasSection hassigned s v
  refine ⟨data, ?_, fun l => ?_⟩
  · rw [layered_eq, Work.bind_of_ok hglobal, Work.bind_of_ok hproject,
      onTop_eq_assignAll cli _ hstrict, hdata]
  · rw [hfields, foldl_allLayers, hfiles, layeredValue]
    cases cli.get? l <;> cases environmentGet? s l <;> cases projectGet? project l <;> rfl

/-- **Precedence, field by field.** The settings of the user are there, the project's file, if there is
one, has nothing but objects for the sections, and the environment's truth value can be read.  Then the
settings are resolved just if, for each field, the value of the highest layer that sets it passes the
check of the field, and what they hold are the checked values. -/
theorem resolve_precedence (cli : Overrides) {s : Surroundings} {w v : Workspace} {g : Settings}
    {project : Option Value} (hglobal : loadGlobal s w = (.ok g, v))
    (hproject : loadProject s v = (.ok project, v))
    (hsections : ∀ p ∈ project, ObjectSections p) (hstrict : FlagReadable s "SCARDOC_STRICT") :
    ((∃ c, (resolve cli s w).1 = .ok c) ↔
      ∀ {α : Type} (l : Leaf α), ∃ a, l.check (layeredValue cli s project g l) = .good a) ∧
    ∀ c, (resolve cli s w).1 = .ok c ↔
      ∀ {α : Type} (l : Leaf α), l.check (layeredValue cli s project g l) = .good (l.get c) := by
  obtain ⟨data, hdata, hfields⟩ := sectionField?_layered cli hglobal hproject hsections hstrict
  have hresolve (c : Settings) : (resolve cli s w).1 = .ok c ↔ check data = .good c := by
    rw [resolve, Work.bind_of_ok hdata]
    cases check data with
    | good c' =>
      constructor
      all_goals
        rintro ⟨⟩
        rfl
    | bad ps => constructor <;> rintro ⟨⟩
  have hchecked (c : Settings) : (resolve cli s w).1 = .ok c ↔
      ∀ {α : Type} (l : Leaf α), l.check (layeredValue cli s project g l) = .good (l.get c) :=
    (hresolve c).trans (check_eq_good_iff hfields c)
  refine ⟨⟨?_, fun hall => ?_⟩, hchecked⟩
  · rintro ⟨c, hc⟩ α l
    exact ⟨l.get c, (hchecked c).1 hc l⟩
  · obtain ⟨c, hc⟩ := Leaf.exists_settings hall
    exact ⟨c, (hchecked c).2 hc⟩

/-- A project's file that was written from an object holds that object. -/
theorem loadProject_of_render {style : Json.Style} {entries : List (Scalar × Value)}
    (h : Json.Storable s.limits.json (.map entries))
    (hstat : w.stat (projectPath w) =
      .ok (.file (Text.Utf8.encode (Json.render style (.map entries) ++ "\n").toList))) :
    loadProject s w = (.ok (some (.map entries)), w) := by
  have hlist : (Json.render style (.map entries) ++ "\n").toList =
      (Json.render style (.map entries)).toList ++ ['\n'] := String.toList_append
  have hreturn : '\r' ∉ (Json.render style (.map entries) ++ "\n").toList := by
    rw [hlist, Json.render, String.toList_ofList, List.mem_append, not_or]
    exact ⟨h.carriageReturn_not_mem style 0, by decide⟩
  refine loadProject_of_stat hstat (Workspace.strictText_encode hreturn) ?_
  rw [hlist]
  exact Json.read_render style h

/-- The project's file has a null marker, which would not pass, and asks for strictness; the command line
sets another marker, and the environment a blank.  The extensions are those of the project's file alone,
and all else is as by default. -/
theorem resolve_precedence_all_layers :
    (resolve { marker := some "--" } { environment := [("SCARDOC_STRICT", " ")] }
      { entries := [([".scardoc.json"], .file (Text.Utf8.encode (Json.render {} (.object
        [("parser", .object [("marker", .null), ("strict", .text "yes")]),
          ("discovery", .object [("extensions", .list [.text ".lua"])])]) ++ "\n").toList))] }).1 =
      .ok { parser := { marker := "--" }, discovery := { extensions := [".lua"] } } := by
  have hstorable : Json.Storable ({} : NestingLimits).json (.object
      [("parser", .object [("marker", .null), ("strict", .text "yes")]),
        ("discovery", .object [("extensions", .list [.text ".lua"])])]) := by
    refine .object (by decide) ?_
    simpa using ⟨.object (by decide) (by simpa using ⟨.null, .text _⟩),
      .object (by decide) (by simpa using .list (by simpa using .text _))⟩
  refine ((resolve_precedence _ (v := { entries := [([".scardoc.json"], _), ([".config"], .directory),
    ([".config", "scardoc"], .directory)] }) rfl (loadProject_of_render hstorable rfl) ?_ ?_).2 _).2
    fun l => ?_
  · rintro _ ⟨⟩ α l
    cases l <;> rintro _ ⟨⟩ <;> exact ⟨_, rfl⟩
  · rintro raw ⟨⟩
    decide
  · cases l <;> rfl

end Settings

end ScriptDoc
