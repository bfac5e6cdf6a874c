import ScriptDoc.Proofs.Document.Spelling
import ScriptDoc.Proofs.Json.RoundTrip
import ScriptDoc.Proofs.Settings.Layers

/-!
# The effective settings

Settings that cannot be resolved are a failure of their own kind as long as the files of settings can be
read at all, and as long as no layer sets a field of a section that a lower layer has replaced by
something that is no object.

* `Settings.output_path_of_resolve`: a document goes where the command line says;
* `Settings.resolve_defaults`: the settings where nothing else says anything;
* `Settings.resolve_failsOnlyAs_iff`.
-/

namespace ScriptDoc

namespace Settings

variable {s : Surroundings} {w v : Workspace}

/-! ### The output path of the command line -/

/-- The value of a field of a section. -/
def sectionField? (data : Value) (sectionName field : String) : Option Value :=
  (data.field? sectionName).bind (·.field? field)

theorem sectionField?_of_assign {sectionName field : String} {value data data' : Value}
    (h : assign sectionName field (some value) data s w = (.ok data', v)) :
    sectionField? data' sectionName field = some value := by
  obtain ⟨⟨⟩, -⟩ | ⟨_, sections, fields, ⟨⟩, -, -, ha⟩ | ⟨-, -, ha⟩ :=
    assign_cases sectionName field (some value) data s w
  · rw [ha] at h
    cases h
    simp [sectionField?, Value.field?, Value.lookup_insert]
  · rw [ha] at h
    cases h

theorem optional_of_lookup {α : Type} {name : String} {default : α} {c : Check α}
    {entries : List (Scalar × Value)} {value : Value}
    (h : Value.lookup (.text name) entries = some value) :
    optional [name] default c entries = (c value).within (.field name) := by
  rw [optional, firstPresent, List.findSome?_cons, h]
  rfl

theorem output_path_of_check {data : Value} {g : Settings} {path : String}
    (hpath : sectionField? data "output" "path" = some (.text path)) (hg : check data = .good g) :
    g.output.path = path := by
  obtain ⟨output, houtput, hfield⟩ := Option.bind_eq_some_iff.1 hpath
  cases data with
  | map sections =>
    cases output with
    | map fields =>
      obtain ⟨_, o, h₁, ho, rfl⟩ := Checked.both_eq_good hg
      obtain ⟨_, m, h₂, -, rfl⟩ := Checked.both_eq_good h₁
      obtain ⟨_, u, h₃, -, rfl⟩ := Checked.both_eq_good h₂
      obtain ⟨_, d, h₄, -, rfl⟩ := Checked.both_eq_good h₃
      obtain ⟨p, -, rfl⟩ := Checked.map_eq_good h₄
      dsimp only at ho
      rw [optional_of_lookup houtput] at ho
      obtain ⟨_, t, h₅, -, rfl⟩ := Checked.both_eq_good (Checked.of_within ho)
      obtain ⟨_, i, h₆, -, rfl⟩ := Checked.both_eq_good h₅
      obtain ⟨q, hq, rfl⟩ := Checked.map_eq_good h₆
      rw [optional_of_lookup hfield] at hq
      cases hq
      rfl
    | _ => cases hfield
  | _ => cases houtput

/-- The command line has the last word on where a document goes. -/
theorem output_path_of_resolve {path : String} {g : Settings}
    (h : resolve { output := some path } s w = (.ok g, v)) : g.output.path = path := by
  obtain ⟨data, u, hlayered, hcheck⟩ := Work.ok_of_bind h
  have hpath : sectionField? data "output" "path" = some (.text path) := by
    rw [layered_eq] at hlayered
    obtain ⟨g, _, -, hlayered⟩ := Work.ok_of_bind hlayered
    obtain ⟨project, _, -, hlayered⟩ := Work.ok_of_bind hlayered
    obtain ⟨data₁, _, -, hlayered⟩ := Work.ok_of_bind hlayered
    obtain ⟨strict, _, -, hlayered⟩ := Work.ok_of_bind hlayered
    obtain ⟨data₂, _, -, hlayered⟩ := Work.ok_of_bind hlayered
    obtain ⟨data₃, _, -, hlayered⟩ := Work.ok_of_bind hlayered
    obtain ⟨data₄, _, -, hlayered⟩ := Work.ok_of_bind hlayered
    obtain ⟨data₅, _, -, hlayered⟩ := Work.ok_of_bind hlayered
    obtain ⟨data₆, _, hassign, hlayered⟩ := Work.ok_of_bind hlayered
    cases hlayered
    exact sectionField?_of_assign hassign
  cases hg : check data with
  | good g' =>
    rw [hg] at hcheck
    cases hcheck
    exact output_path_of_check hpath hg
  | bad ps =>
    rw [hg] at hcheck
    cases hcheck

/-- Where no file and no variable says anything, the settings are the defaults with what the command line
says. -/
theorem resolve_defaults {p : Path} (path : String) (hfile : GlobalFile s w v p)
    (hglobal : v.isFile p = .ok false) (hproject : v.isFile (projectPath v) = .ok false)
    (hmarker : s.environment.lookup "SCARDOC_MARKER" = none)
    (hstrict : s.environment.lookup "SCARDOC_STRICT" = none)
    (houtput : s.environment.lookup "SCARDOC_OUTPUT" = none) :
    resolve { output := some path } s w = (.ok { output := { path } }, v) := by
  have hg : loadGlobal s w = (.ok {}, v) := by
    rw [loadGlobal_eq, Work.bind_of_ok (globalPath_of_globalFile hfile), settingsAt,
      Work.bind_of_ok (Work.inspect_of_ok hglobal)]
    rfl
  have hp : loadProject s v = (.ok none, v) := by
    have habsolute : Work.absolute (Path.ofString ".scardoc.json") s v = (.ok (projectPath v), v) := rfl
    rw [loadProject, Work.bind_of_ok habsolute, Work.bind_of_ok (Work.inspect_of_ok hproject)]
    rfl
  have hflag : environmentFlag "SCARDOC_STRICT" s v = (.ok none, v) := by
    have hvalue : Work.environmentValue "SCARDOC_STRICT" s v = (.ok none, v) := by
      rw [Work.environmentValue, hstrict]
    exact Work.bind_of_ok hvalue _
  have hnone : assign "parser" "marker" (((none : Option String).filter (!·.isEmpty)).map .text)
      ({} : Settings).wire s v = (.ok ({} : Settings).wire, v) := rfl
  have hlayered : layered { output := some path } s w =
      (.ok ({ output := { path } } : Settings).wire, v) := by
    rw [layered_eq, Work.bind_of_ok hg, Work.bind_of_ok hp, onFiles, onTop, hmarker,
      Work.bind_of_ok hnone, Work.bind_of_ok hflag, upperLayers, houtput]
    rfl
  exact Work.bind_of_ok hlayered _

/-! ### How resolving settings may fail -/

/-- **When resolving settings fails with nothing but a failure of settings.** The user's file, once its
directory is there, and the project's file are read or refused, and the sections whose fields the
environment or the command line sets are there after both. -/
theorem resolve_failsOnlyAs_iff (cli : Overrides) (s : Surroundings) (w : Workspace) :
    FailsOnlyAs .config (resolve cli s w).1 ↔
      ∃ p v, GlobalFile s w v p ∧ Legible s.limits v p ∧
        ∀ g, loadGlobal s w = (.ok g, v) → Legible s.limits v (projectPath v) ∧
          ∀ project, loadProject s v = (.ok project, v) → Assignable cli s (onFiles g project) := by
  have hresolve : FailsOnlyAs .config (resolve cli s w).1 ↔
      FailsOnlyAs .config (layered cli s w).1 := by
    refine Work.failsOnlyAs_bind.trans (and_iff_left fun data v _ => ?_)
    cases check data with
    | good g => exact Work.failsOnlyAs_pure g
    | bad ps => exact (Work.failsOnlyAs_fail _).2 rfl
  have hproject (g : Settings) (v : Workspace) :
      FailsOnlyAs .config ((loadProject >>= fun project => onTop cli s (onFiles g project)) s v).1 ↔
        Legible s.limits v (projectPath v) ∧
          ∀ project, loadProject s v = (.ok project, v) → Assignable cli s (onFiles g project) := by
    rw [Work.failsOnlyAs_bind, failsOnlyAs_loadProject]
    refine and_congr_right fun _ => ⟨fun h project hp => ?_, fun h project u hp => ?_⟩
    · exact (failsOnlyAs_onTop cli _).1 (h project v hp)
    · obtain rfl := looks_loadProject.eq hp
      exact (failsOnlyAs_onTop cli _).2 (h project hp)
  rw [hresolve, layered_eq, Work.failsOnlyAs_bind, failsOnlyAs_loadGlobal]
  constructor
  · rintro ⟨⟨p, v, hfile, hlegible⟩, hrest⟩
    exact ⟨p, v, hfile, hlegible, fun g hg => (hproject g v).1 (hrest g v hg)⟩
  · rintro ⟨p, v, hfile, hlegible, hrest⟩
    refine ⟨⟨p, v, hfile, hlegible⟩, fun g u hg => ?_⟩
    have hu : u = v := by rw [← snd_loadGlobal hfile, hg]
    subst hu
    exact (hproject g u).2 (hrest g hg)

/-- A field of a section that the project's file has replaced is an accident, though the file by itself is
a failure: here the section of doc blocks is a number, and the command line sets the marker. -/
theorem resolve_section_replaced :
    ¬ FailsOnlyAs .config
      (resolve { marker := some "--" } { environment := [("HOME", "/")] } { entries :=
        [([".scardoc.json"], .file (Text.Utf8.encode "\x7b\"parser\": 1\x7d\n".toList))] }).1 := by
  have htext : "\x7b\"parser\": 1\x7d\n".toList =
      (Json.render { indent := none } (.object [("parser", .int 1)])).toList ++ ['\n'] := by decide
  have hjson : Json.read "\x7b\"parser\": 1\x7d\n".toList = .ok (.object [("parser", .int 1)]) := by
    rw [htext]
    exact Json.read_render _ (.object (by decide) (by simpa using .int (by decide)))
  have hstrict := Workspace.strictText_encode (t := "\x7b\"parser\": 1\x7d\n") (by decide)
  generalize Text.Utf8.encode "\x7b\"parser\": 1\x7d\n".toList = bytes at hstrict ⊢
  have hglobal : loadGlobal { environment := [("HOME", "/")] } { entries := [([".scardoc.json"], .file bytes)] } =
      (.ok {}, { entries := [([".scardoc.json"], .file bytes), ([".config"], .directory),
        ([".config", "scardoc"], .directory)] }) := rfl
  have hstat : Workspace.stat { entries := [([".scardoc.json"], .file bytes), ([".config"], .directory),
      ([".config", "scardoc"], .directory)] } ⟨"/", [".scardoc.json"]⟩ = .ok (.file bytes) := rfl
  have hproject := loadProject_of_stat (s := { environment := [("HOME", "/")] }) hstat hstrict hjson
  have hlayered := layered_eq { marker := some "--" } { environment := [("HOME", "/")] }
    { entries := [([".scardoc.json"], .file bytes)] }
  rw [Work.bind_of_ok hglobal, Work.bind_of_ok hproject] at hlayered
  rw [resolve, Work.bind_of_error (hlayered.trans rfl)]
  exact failsOnlyAs_accident _

end Settings

end ScriptDoc
