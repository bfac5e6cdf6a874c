import ScriptDoc.Proofs.Data.Object
import ScriptDoc.Proofs.Work
import ScriptDoc.Settings.Layers

/-!
# Layers of settings

What the files of settings, the environment and the command line do to the settings object, how each of
them may fail, and that none of them changes a file.

* `Value.HasSection`, that an object has a section, and `Settings.assign_cases`: what setting a field
  does;
* `Settings.assignAll`, several fields one after another, with `Settings.failsOnlyAs_assignAll`;
* `Settings.Legible`, a file of settings that is read or refused, with `Settings.failsOnlyAs_loadGlobal`
  and `Settings.failsOnlyAs_loadProject`;
* `Settings.layered_eq`: all layers, first the files, and then the fields that are set on top of them;
* `Settings.keepsFiles_resolve`.
-/

namespace ScriptDoc

/-- An object with a section of some name: an object under that name. -/
def Value.HasSection (data : Value) (name : String) : Prop :=
  ∃ fields, data.field? name = some (.map fields)

namespace Settings

variable {s : Surroundings} {w v : Workspace}

/-! ### Setting a field of a section -/

/-- What setting a field does: nothing if there is no value, else a change of one section, and an
accident where there is no such section. -/
theorem assign_cases (sectionName field : String) (value? : Option Value) (data : Value)
    (s : Surroundings) (w : Workspace) :
    (value? = none ∧ assign sectionName field value? data s w = (.ok data, w)) ∨
    (∃ value sections fields, value? = some value ∧ data = .map sections ∧
      Value.lookup (.text sectionName) sections = some (.map fields) ∧
      assign sectionName field value? data s w =
        (.ok (.map (Value.insert (.text sectionName)
          (.map (Value.insert (.text field) value fields)) sections)), w)) ∨
    (value?.isSome = true ∧ ¬ data.HasSection sectionName ∧
      assign sectionName field value? data s w = (.error (.accident .sectionNotAnObject), w)) := by
  cases value? with
  | none => exact .inl ⟨rfl, rfl⟩
  | some value =>
    cases data with
    | map sections =>
      rcases hsection : Value.lookup (.text sectionName) sections with _ | _ | _ | fields | _
      case some.map => exact .inr (.inl ⟨value, sections, fields, rfl, rfl, hsection, by
        simp only [assign, hsection]; rfl⟩)
      all_goals
        refine .inr (.inr ⟨rfl, ?_, by simp only [assign, hsection]; rfl⟩)
        rintro ⟨fields, hfields⟩
        rw [Value.field?, hsection] at hfields
        cases hfields
    | scalar _ => exact .inr (.inr ⟨rfl, by rintro ⟨_, ⟨⟩⟩, rfl⟩)
    | list _ => exact .inr (.inr ⟨rfl, by rintro ⟨_, ⟨⟩⟩, rfl⟩)
    | set _ => exact .inr (.inr ⟨rfl, by rintro ⟨_, ⟨⟩⟩, rfl⟩)

/-- Setting a field of a section leaves the same sections. -/
theorem hasSection_of_assign {sectionName field : String} {value? : Option Value} {data data' : Value}
    (h : assign sectionName field value? data s w = (.ok data', v)) (name : String) :
    data'.HasSection name ↔ data.HasSection name := by
  obtain ⟨-, ha⟩ | ⟨value, sections, fields, -, rfl, hsection, ha⟩ | ⟨-, -, ha⟩ :=
    assign_cases sectionName field value? data s w
  · rw [ha] at h
    cases h
    rfl
  · rw [ha] at h
    cases h
    simp only [Value.HasSection, Value.field?, Value.lookup_insert]
    by_cases hname : sectionName = name
    · subst hname
      simp [hsection]
    · simp [hname]
  · rw [ha] at h
    cases h

/-- Setting a field and going on fails as one kind if the section is there, and if what follows does for
any object with the same sections. -/
theorem failsOnlyAs_assign_bind {α : Type} {k : FailureKind} {sectionName field : String}
    {value? : Option Value} {data : Value} {f : Value → Work α} {P : Prop}
    (hrest : ∀ data', (∀ name, data'.HasSection name ↔ data.HasSection name) →
      (FailsOnlyAs k (f data' s w).1 ↔ P)) :
    FailsOnlyAs k ((assign sectionName field value? data >>= f) s w).1 ↔
      (value?.isSome = true → data.HasSection sectionName) ∧ P := by
  obtain ⟨rfl, h⟩ | ⟨value, sections, fields, rfl, rfl, hsection, h⟩ | ⟨hvalue, hno, h⟩ :=
    assign_cases sectionName field value? data s w
  · rw [Work.bind_of_ok h, hrest _ (hasSection_of_assign h)]
    simp
  · rw [Work.bind_of_ok h, hrest _ (hasSection_of_assign h)]
    exact (and_iff_right fun _ => ⟨fields, hsection⟩).symm
  · rw [Work.bind_of_error h]
    exact iff_of_false (failsOnlyAs_accident _) fun hsection => hno (hsection.1 hvalue)

theorem looks_assign (sectionName field : String) (value? : Option Value) (data : Value) :
    Work.Looks (assign sectionName field value? data) := by
  intro s w
  obtain ⟨-, h⟩ | ⟨_, _, _, -, -, -, h⟩ | ⟨-, -, h⟩ := assign_cases sectionName field value? data s w
  all_goals rw [h]

/-- A field of a section, with its value if a layer has one. -/
structure Assignment where
  sectionName : String
  field : String
  value? : Option Value

/-- Sets several fields, one after another. -/
def assignAll : List Assignment → Value → Work Value
  | [], data => pure data
  | a :: rest, data => assign a.sectionName a.field a.value? data >>= assignAll rest

theorem failsOnlyAs_assignAll {k : FailureKind} (as : List Assignment) (data : Value) :
    FailsOnlyAs k (assignAll as data s w).1 ↔
      ∀ a ∈ as, a.value?.isSome = true → data.HasSection a.sectionName := by
  induction as generalizing data w with
  | nil => exact iff_of_true (failsOnlyAs_ok data) (by simp)
  | cons a rest ih =>
    rw [assignAll, List.forall_mem_cons]
    refine failsOnlyAs_assign_bind fun data' hsame => ?_
    -- later fields find the sections that were there at the start
    simpa only [hsame] using ih (w := w) data'

/-! ### The files of settings -/

/-- A file of settings that is read or refused, if there is one: its name is not too long, its bytes are
a text, and the text has no integer that is too long and no nesting that is too deep. -/
structure Legible (limits : NestingLimits) (w : Workspace) (p : Path) : Prop where
  short : w.stat p ≠ .error .nameTooLong
  text : ∀ bytes, w.stat p = .ok (.file bytes) → ∃ text, Workspace.strictText bytes = .ok text ∧
    ∀ e, Json.read text.toList limits = .error e → e.isMalformed = true

theorem looks_readObject (file : SettingsFile) (p : Path) : Work.Looks (readObject file p) := by
  refine (Work.looks_inspect _ _).bind fun bytes => ?_
  split
  · exact Work.looks_crash _
  · refine Work.looks_surroundings.bind fun s => ?_
    split
    · exact Work.looks_crash _
    · exact Work.looks_crash _
    · exact Work.looks_fail _
    · exact Work.looks_pure _
    · exact Work.looks_fail _

theorem failsOnlyAs_readObject {file : SettingsFile} {p : Path} {bytes : List UInt8}
    (hstat : w.stat p = .ok (.file bytes)) :
    FailsOnlyAs .config (readObject file p s w).1 ↔ Legible s.limits w p := by
  have hlegible : Legible s.limits w p ↔ ∃ text, Workspace.strictText bytes = .ok text ∧
      ∀ e, Json.read text.toList s.limits = .error e → e.isMalformed = true := by
    refine ⟨fun h => h.text bytes hstat, fun h => ⟨by simp [hstat], fun bytes' h' => ?_⟩⟩
    rw [hstat] at h'
    cases h'
    exact h
  rw [hlegible, readObject, Work.bind_of_ok (Work.inspect_of_ok (Workspace.read_of_stat hstat))]
  cases htext : Workspace.strictText bytes with
  | error e => exact iff_of_false (Work.not_failsOnlyAs_crash _) (by simp)
  | ok text =>
    dsimp only
    rw [Work.bind_of_ok (rfl : Work.surroundings s w = (.ok s, w))]
    cases hread : Json.read text.toList s.limits with
    | error e => cases e <;> simp [hread, Work.failsOnlyAs_fail, Work.not_failsOnlyAs_crash,
        Json.Error.isMalformed, Failure.kind]
    | ok value =>
      refine iff_of_true ?_ ⟨text, rfl, by simp [hread]⟩
      cases value with
      | map entries => exact Work.failsOnlyAs_pure _
      | _ => exact (Work.failsOnlyAs_fail _).2 rfl

/-- Reading a file of settings if there is one, and going on with what it holds or without. -/
theorem failsOnlyAs_ifFile {α : Type} {file : SettingsFile} {p : Path} (found : Value → Work α)
    (absent : Work α) (hfound : ∀ data, FailsOnlyAs .config (found data s w).1)
    (habsent : FailsOnlyAs .config (absent s w).1) :
    FailsOnlyAs .config ((do
      if ← Work.inspect Workspace.isFile p then
        let data ← readObject file p
        found data
      else absent : Work α) s w).1 ↔ Legible s.limits w p := by
  obtain ⟨hlong, hfile⟩ | ⟨bytes, hstat⟩ | ⟨hshort, hnone, hfile⟩ := w.isFile_cases p
  · refine iff_of_false (fun h => ?_) fun h => h.short hlong
    obtain ⟨b, hb⟩ := Work.failsOnlyAs_inspect.1 (Work.failsOnlyAs_bind.1 h).1
    rw [hfile] at hb
    cases hb
  · rw [Work.bind_of_ok (Work.inspect_of_ok (Workspace.isFile_of_stat hstat)), if_pos rfl,
      Work.failsOnlyAs_bind, failsOnlyAs_readObject hstat]
    refine and_iff_left fun data v hread => ?_
    obtain rfl := (looks_readObject file p).eq hread
    exact hfound data
  · rw [Work.bind_of_ok (Work.inspect_of_ok hfile), if_neg (by simp)]
    exact iff_of_true habsent ⟨hshort, fun bytes h => absurd h (hnone bytes)⟩

theorem looks_ifFile {α : Type} {file : SettingsFile} {p : Path} (found : Value → Work α)
    (absent : Work α) (hfound : ∀ data, Work.Looks (found data)) (habsent : Work.Looks absent) :
    Work.Looks (do
      if ← Work.inspect Workspace.isFile p then
        let data ← readObject file p
        found data
      else absent : Work α) := by
  refine (Work.looks_inspect _ _).bind fun isFile => ?_
  split
  · exact (looks_readObject _ _).bind hfound
  · exact habsent

/-- A directory of the user's is known and made if it is missing, or there is an accident. -/
theorem ensureDirectory_cases (find? : Surroundings → Option Path) (s : Surroundings) (w : Workspace) :
    (∃ p v, find? s = some p ∧ w.makeDirectories p = (v, none) ∧
      ensureDirectory find? s w = (.ok p, v)) ∨
    ((∀ p v, find? s = some p → w.makeDirectories p ≠ (v, none)) ∧
      ∃ a v, ensureDirectory find? s w = (.error (.accident a), v)) := by
  unfold ensureDirectory
  rw [Work.bind_of_ok (rfl : Work.surroundings s w = (.ok s, w))]
  cases hp : find? s with
  | none => exact .inr ⟨by simp, _, _, rfl⟩
  | some p =>
    rcases hmake : w.makeDirectories p with ⟨v, _ | failure⟩
    · have hchange : Work.change (·.makeDirectories p) s w = (.ok (), v) := by
        simp only [Work.change, hmake]
      exact .inl ⟨p, v, rfl, hmake, Work.bind_of_ok hchange _⟩
    · have hchange : Work.change (·.makeDirectories p) s w = (.error (.accident (.files failure)), v) := by
        simp only [Work.change, hmake]
      refine .inr ⟨?_, _, _, Work.bind_of_error hchange _⟩
      rintro _ _ ⟨⟩ h
      rw [hmake] at h
      cases h

/-- Where the user's file of settings is, once its directory is there. -/
inductive GlobalFile (s : Surroundings) (w v : Workspace) : Path → Prop
  | mk {p : Path} (path : configPath? s = some p) (made : w.makeDirectories p = (v, none)) :
    GlobalFile s w v (p.child "config.json")

theorem globalPath_of_globalFile {p : Path} (h : GlobalFile s w v p) : globalPath s w = (.ok p, v) := by
  obtain @⟨d, hd, hmade⟩ := h
  obtain ⟨d', v', hd', hmade', hensure⟩ | ⟨hno, -⟩ := ensureDirectory_cases configPath? s w
  · rw [hd] at hd'
    cases hd'
    rw [hmade] at hmade'
    cases hmade'
    exact Work.bind_of_ok hensure _
  · exact absurd hmade (hno d v hd)

theorem globalFile_of_globalPath {p : Path} (h : globalPath s w = (.ok p, v)) : GlobalFile s w v p := by
  obtain ⟨d, u, hensure, hp⟩ := Work.ok_of_bind h
  cases hp
  obtain ⟨d', v', hd, hmade, hensure'⟩ | ⟨-, a, v', hensure'⟩ := ensureDirectory_cases configPath? s w
  · rw [configDirectory, hensure'] at hensure
    cases hensure
    exact ⟨hd, hmade⟩
  · rw [configDirectory, hensure'] at hensure
    cases hensure

/-- The settings of a file, or the defaults if there is none. -/
def settingsAt (p : Path) : Work Settings := do
  if ← Work.inspect Workspace.isFile p then
    let data ← readObject .global p
    match check data with
    | .good g => return g
    | .bad ps => Work.fail (.invalidSettings p.text modelName ps)
  else return {}

theorem loadGlobal_eq : loadGlobal = globalPath >>= settingsAt := rfl

theorem looks_settingsAt (p : Path) : Work.Looks (settingsAt p) := by
  refine looks_ifFile _ _ (fun data => ?_) (Work.looks_pure _)
  cases check data with
  | good g => exact Work.looks_pure g
  | bad ps => exact Work.looks_fail _

theorem failsOnlyAs_settingsAt {p : Path} :
    FailsOnlyAs .config (settingsAt p s w).1 ↔ Legible s.limits w p := by
  refine failsOnlyAs_ifFile _ _ (fun data => ?_) (Work.failsOnlyAs_pure _)
  cases check data with
  | good g => exact Work.failsOnlyAs_pure g
  | bad ps => exact (Work.failsOnlyAs_fail _).2 rfl

theorem snd_loadGlobal {p : Path} (h : GlobalFile s w v p) : (loadGlobal s w).2 = v := by
  rw [loadGlobal_eq, Work.bind_of_ok (globalPath_of_globalFile h)]
  exact looks_settingsAt p s v

theorem failsOnlyAs_loadGlobal :
    FailsOnlyAs .config (loadGlobal s w).1 ↔ ∃ p v, GlobalFile s w v p ∧ Legible s.limits v p := by
  obtain ⟨d, v, hd, hmade, -⟩ | ⟨hno, a, v, hensure⟩ := ensureDirectory_cases configPath? s w
  · have hfile : GlobalFile s w v (d.child "config.json") := ⟨hd, hmade⟩
    rw [loadGlobal_eq, Work.bind_of_ok (globalPath_of_globalFile hfile), failsOnlyAs_settingsAt]
    refine ⟨fun h => ⟨_, _, hfile, h⟩, ?_⟩
    rintro ⟨_, u, @⟨d', hd', hmade'⟩, h⟩
    rw [hd] at hd'
    cases hd'
    rw [hmade] at hmade'
    cases hmade'
    exact h
  · refine iff_of_false (fun h => ?_) ?_
    · have hdirectory := (Work.failsOnlyAs_bind.1 (Work.failsOnlyAs_bind.1 h).1).1
      rw [configDirectory, hensure] at hdirectory
      exact failsOnlyAs_accident a hdirectory
    · rintro ⟨_, u, ⟨hd, hmade⟩, -⟩
      exact hno _ _ hd hmade

/-- Where the project's file of settings is. -/
def projectPath (w : Workspace) : Path := ⟨"/", w.here ++ [".scardoc.json"]⟩

theorem failsOnlyAs_loadProject :
    FailsOnlyAs .config (loadProject s w).1 ↔ Legible s.limits w (projectPath w) :=
  failsOnlyAs_ifFile (fun data => pure (some data)) (pure none) (fun _ => Work.failsOnlyAs_pure _)
    (Work.failsOnlyAs_pure none)

theorem loadProject_of_stat {bytes : List UInt8} {text : String} {entries : List (Scalar × Value)}
    (hstat : w.stat (projectPath w) = .ok (.file bytes))
    (htext : Workspace.strictText bytes = .ok text)
    (hjson : Json.read text.toList s.limits = .ok (.map entries)) :
    loadProject s w = (.ok (some (.map entries)), w) := by
  have hread : readObject .project (projectPath w) s w = (.ok (.map entries), w) := by
    rw [readObject, Work.bind_of_ok (Work.inspect_of_ok (Workspace.read_of_stat hstat))]
    simp only [htext]
    rw [Work.bind_of_ok (rfl : Work.surroundings s w = (.ok s, w))]
    simp only [hjson]
    rfl
  have hpath : Work.absolute (Path.ofString ".scardoc.json") s w = (.ok (projectPath w), w) := rfl
  rw [loadProject, Work.bind_of_ok hpath,
    Work.bind_of_ok (Work.inspect_of_ok (Workspace.isFile_of_stat hstat)), if_pos rfl,
    Work.bind_of_ok hread]
  rfl

theorem looks_loadProject : Work.Looks loadProject :=
  (Work.looks_absolute _).bind fun _ =>
    looks_ifFile (fun data => pure (some data)) (pure none) (fun _ => Work.looks_pure _) (Work.looks_pure _)

/-! ### All layers -/

/-- Whether a variable of the environment is set to something. -/
def SetsText (s : Surroundings) (name : String) : Prop :=
  ∃ text, s.environment.lookup name = some text ∧ text ≠ ""

/-- Whether a variable of the environment is a truth value, if it is set. -/
def FlagReadable (s : Surroundings) (name : String) : Prop :=
  ∀ raw, s.environment.lookup name = some raw → (flag? raw).isSome = true

/-- The settings object of the two files. -/
def onFiles (g : Settings) (project : Option Value) : Value :=
  match project with
  | some update => g.wire.overlay update
  | none => g.wire

/-- What the environment and the command line set after the marker of the environment. -/
def upperLayers (cli : Overrides) (s : Surroundings) (strict : Option Bool) : List Assignment :=
  [⟨"parser", "strict", strict.map .bool⟩,
    ⟨"output", "path", ((s.environment.lookup "SCARDOC_OUTPUT").filter (!·.isEmpty)).map .text⟩,
    ⟨"parser", "marker", cli.marker.map .text⟩,
    ⟨"parser", "strict", cli.strict.map .bool⟩,
    ⟨"output", "path", cli.output.map .text⟩,
    ⟨"output", "format", cli.format.map .text⟩]

/-- Sections are there where the environment or the command line sets a field of them. A truth value in the
environment that cannot be read is a failure before anything but the marker is set. -/
structure Assignable (cli : Overrides) (s : Surroundings) (data : Value) : Prop where
  marker : SetsText s "SCARDOC_MARKER" → data.HasSection "parser"
  parser : FlagReadable s "SCARDOC_STRICT" →
    (s.environment.lookup "SCARDOC_STRICT").isSome = true ∨ cli.marker.isSome = true ∨
      cli.strict.isSome = true → data.HasSection "parser"
  output : FlagReadable s "SCARDOC_STRICT" →
    SetsText s "SCARDOC_OUTPUT" ∨ cli.output.isSome = true ∨ cli.format.isSome = true →
      data.HasSection "output"

/-- Sets what the environment and the command line set in the settings object of the files. -/
def onTop (cli : Overrides) (s : Surroundings) (data : Value) : Work Value := do
  let data ← assign "parser" "marker"
    (((s.environment.lookup "SCARDOC_MARKER").filter (!·.isEmpty)).map .text) data
  let strict ← environmentFlag "SCARDOC_STRICT"
  assignAll (upperLayers cli s strict) data

theorem layered_eq (cli : Overrides) (s : Surroundings) (w : Workspace) :
    layered cli s w =
      (loadGlobal >>= fun g => loadProject >>= fun project => onTop cli s (onFiles g project)) s w := by
  have hlast (data : Value) : assignAll [⟨"output", "format", cli.format.map .text⟩] data =
      assign "output" "format" (cli.format.map .text) data := Work.bind_pure _
  simp only [onTop, upperLayers, assignAll] at hlast ⊢
  simp only [hlast]
  rfl

theorem isSome_environmentText (s : Surroundings) (name : String) :
    ((s.environment.lookup name).filter (!·.isEmpty)).isSome = true ↔ SetsText s name := by
  cases h : s.environment.lookup name <;> simp [SetsText, h]

/-- A truth value of the environment is what the variable says, or a failure if it says nothing. -/
theorem environmentFlag_cases (name : String) (s : Surroundings) (w : Workspace) :
    (FlagReadable s name ∧ ∃ b, (b.isSome = true ↔ (s.environment.lookup name).isSome = true) ∧
      environmentFlag name s w = (.ok b, w)) ∨
    (¬ FlagReadable s name ∧ ∃ f, f.kind = .config ∧
      environmentFlag name s w = (.error (.failure f), w)) := by
  unfold environmentFlag
  rw [Work.bind_of_ok (rfl : Work.environmentValue name s w = (.ok (s.environment.lookup name), w))]
  cases hraw : s.environment.lookup name with
  | none => exact .inl ⟨by simp [FlagReadable, hraw], none, by simp, rfl⟩
  | some raw =>
    cases hflag : flag? raw with
    | some b => exact .inl ⟨by simp [FlagReadable, hraw, hflag], some b, by simp, by simp only [hflag]; rfl⟩
    | none => exact .inr ⟨by simp [FlagReadable, hraw, hflag], .notBoolean name raw, rfl, by
        simp only [hflag]; rfl⟩

theorem failsOnlyAs_onTop (cli : Overrides) (data : Value) :
    FailsOnlyAs .config (onTop cli s data s w).1 ↔ Assignable cli s data := by
  obtain ⟨hreadable, strict, hstrict, hflag⟩ | ⟨hunreadable, f, hf, hflag⟩ :=
    environmentFlag_cases "SCARDOC_STRICT" s w
  · have hupper : FailsOnlyAs .config (onTop cli s data s w).1 ↔
        (SetsText s "SCARDOC_MARKER" → data.HasSection "parser") ∧
          ∀ a ∈ upperLayers cli s strict, a.value?.isSome = true → data.HasSection a.sectionName := by
      rw [← isSome_environmentText, ← Option.isSome_map]
      refine failsOnlyAs_assign_bind fun data' hsame => ?_
      rw [Work.bind_of_ok hflag, failsOnlyAs_assignAll]
      simp only [hsame]
    rw [hupper]
    simp only [upperLayers, List.forall_mem_cons, Option.isSome_map, hstrict, isSome_environmentText]
    constructor
    · rintro ⟨hmarker, hstrict, hpath, hcliMarker, hcliStrict, hcliPath, hcliFormat, -⟩
      exact ⟨hmarker, fun _ h => h.elim hstrict (·.elim hcliMarker hcliStrict),
        fun _ h => h.elim hpath (·.elim hcliPath hcliFormat)⟩
    · intro h
      have hparser := h.parser hreadable
      have houtput := h.output hreadable
      exact ⟨h.marker, fun h => hparser (.inl h), fun h => houtput (.inl h),
        fun h => hparser (.inr (.inl h)), fun h => hparser (.inr (.inr h)),
        fun h => houtput (.inr (.inl h)), fun h => houtput (.inr (.inr h)), by simp⟩
  · have hmarker : FailsOnlyAs .config (onTop cli s data s w).1 ↔
        (SetsText s "SCARDOC_MARKER" → data.HasSection "parser") ∧ True := by
      rw [← isSome_environmentText, ← Option.isSome_map]
      refine failsOnlyAs_assign_bind fun data' _ => ?_
      rw [Work.bind_of_error hflag]
      exact iff_of_true ((failsOnlyAs_failure f).2 hf) trivial
    rw [hmarker, and_true]
    exact ⟨fun h => ⟨h, fun hr => absurd hr hunreadable, fun hr => absurd hr hunreadable⟩,
      fun h => h.marker⟩

/-! ### What is done to files -/

theorem keepsFiles_ensureDirectory (find? : Surroundings → Option Path) :
    Work.KeepsFiles (ensureDirectory find?) := by
  refine Work.looks_surroundings.keepsFiles.bind fun s => ?_
  split
  · exact (Work.looks_crash _).keepsFiles
  · exact (Work.keepsFiles_makeDirectories _).bind fun _ => (Work.looks_pure _).keepsFiles

theorem keepsFiles_globalPath : Work.KeepsFiles globalPath :=
  (keepsFiles_ensureDirectory _).bind fun _ => (Work.looks_pure _).keepsFiles

theorem looks_environmentFlag (name : String) : Work.Looks (environmentFlag name) := by
  intro s w
  obtain ⟨-, b, -, h⟩ | ⟨-, f, -, h⟩ := environmentFlag_cases name s w
  · rw [h]
  · rw [h]

theorem looks_assignAll (as : List Assignment) (data : Value) : Work.Looks (assignAll as data) := by
  induction as generalizing data with
  | nil => exact Work.looks_pure data
  | cons a rest ih => exact (looks_assign _ _ _ _).bind ih

theorem looks_onTop (cli : Overrides) (s : Surroundings) (data : Value) :
    Work.Looks (onTop cli s data) :=
  (looks_assign _ _ _ _).bind fun _ => (looks_environmentFlag _).bind fun _ => looks_assignAll _ _

theorem keepsFiles_layered (cli : Overrides) : Work.KeepsFiles (layered cli) := by
  intro s w
  rw [layered_eq]
  have hglobal : Work.KeepsFiles loadGlobal :=
    keepsFiles_globalPath.bind fun p => (looks_settingsAt p).keepsFiles
  exact hglobal.bind (fun g => (looks_loadProject.bind fun _ => looks_onTop cli s _).keepsFiles) s w

/-- Resolving settings makes the directory of the user's file at most. -/
theorem keepsFiles_resolve (cli : Overrides) : Work.KeepsFiles (resolve cli) := by
  refine (keepsFiles_layered cli).bind fun data => ?_
  cases check data with
  | good g => exact (Work.looks_pure g).keepsFiles
  | bad ps => exact (Work.looks_fail _).keepsFiles

end Settings

end ScriptDoc
