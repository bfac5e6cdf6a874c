import ScriptDoc.Proofs.Json.RoundTrip
import ScriptDoc.Proofs.Document.Wire
import ScriptDoc.Proofs.Settings.Fields

/-!
# Keeping the settings of the user

The user's settings are written with all their fields, and each field under the name under which it is
looked up, so that they are found again as they were.

* `Settings.check_wire`: the check of the settings object gives the settings;
* `Settings.storable_wire`: JSON can hold that object;
* `Settings.settingsAt_of_stat`: a file that holds the text of settings is read as those settings;
* `Settings.GlobalFile.of_write`: the user's file is where it was when it was written;
* `Settings.loadGlobal_saveGlobal`.
-/

namespace ScriptDoc

open ScriptDoc.Text

namespace Settings

variable {s : Surroundings} {w v : Workspace}

/-! ### The text of settings -/

/-- What a field holds passes the check of the field; only a marker without characters does not. -/
theorem Leaf.check_wire {α : Type} (l : Leaf α) {c : Settings} (hmarker : c.parser.marker ≠ "") :
    l.check (l.wire (l.get c)) = .good (l.get c) := by
  have htexts (texts : List String) : Check.list Check.text (.list (texts.map .text)) = .good texts :=
    @items_map _ Check.text _ texts (fun _ _ => rfl) 0
  cases l with
  | marker => simp [check, wire, get, Check.someText, Check.text, Value.text, hmarker]
  | extensions => exact htexts _
  | exclude => exact htexts _
  | indent =>
    have hsign : ¬ (c.output.indent : Int) < 0 := by omega
    simp [check, wire, get, Check.natural, Check.integer, Value.int, hsign]
  | _ => rfl

theorem check_wire {c : Settings} (hmarker : c.parser.marker ≠ "") : check c.wire = .good c := by
  refine (check_eq_good_iff (x := fun l => l.wire (l.get c)) (fun l => ?_) c).2 fun l =>
    l.check_wire hmarker
  obtain ⟨fields, hfields, hvalue⟩ := l.lookup_wire c
  rw [sectionField?, hfields]
  exact hvalue

theorem storable_wire (limits : NestingLimits) {c : Settings}
    (hindent : (Nat.toDigits 10 c.output.indent).length ≤ Json.maxDigits) :
    Json.Storable limits.json c.wire := by
  obtain ⟨more, hmore⟩ := Nat.exists_eq_add_of_le' limits.json_ge
  rw [hmore]
  have htexts (room : Nat) (texts : List String) :
      Json.Storable (room + 1) (.list (texts.map .text)) := by
    refine .list fun v hv => ?_
    obtain ⟨text, -, rfl⟩ := List.mem_map.1 hv
    exact .text text
  refine .object (by simp) ?_
  simp only [List.forall_mem_cons]
  refine ⟨.object (by simp) ?_, .object (by simp) ?_, .object (by simp) ?_,
    .object (by simp) ?_, .object (by simp) ?_, nofun⟩
  all_goals simp only [List.forall_mem_cons]
  · exact ⟨.text _, .bool _, nofun⟩
  · exact ⟨htexts _ _, htexts _ _, .bool _, nofun⟩
  · exact ⟨.bool _, nofun⟩
  · exact ⟨.bool _, nofun⟩
  · exact ⟨.text _, .int hindent, .text _, nofun⟩

theorem toList_fileText (c : Settings) :
    (fileText c).toList = (Json.render { ascii := true } c.wire).toList ++ ['\n'] :=
  String.toList_append

/-- A file that holds the text of settings is read as those settings. -/
theorem settingsAt_of_stat {c : Settings} {p : Path} (hmarker : c.parser.marker ≠ "")
    (hindent : (Nat.toDigits 10 c.output.indent).length ≤ Json.maxDigits)
    (hstat : w.stat p = .ok (.file (Utf8.encode (fileText c).toList))) :
    settingsAt p s w = (.ok c, w) := by
  have hstorable := storable_wire s.limits hindent
  have hreturn : '\r' ∉ (fileText c).toList := by
    rw [toList_fileText, Json.render, String.toList_ofList, List.mem_append, not_or]
    exact ⟨hstorable.carriageReturn_not_mem _ 0, by decide⟩
  have hread : readObject .global p s w = (.ok c.wire, w) := by
    rw [readObject, Work.bind_of_ok (Work.inspect_of_ok (Workspace.read_of_stat hstat)),
      Workspace.strictText_encode hreturn]
    dsimp only
    rw [Work.bind_of_ok (rfl : Work.surroundings s w = (.ok s, w))]
    simp only [toList_fileText, Json.read_render _ hstorable]
    rfl
  rw [settingsAt, Work.bind_of_ok (Work.inspect_of_ok (Workspace.isFile_of_stat hstat)), if_pos rfl,
    Work.bind_of_ok hread, check_wire hmarker]
  rfl

/-! ### The file -/

theorem saveGlobal_ok {c : Settings} {a : Unit} (h : saveGlobal c s w = (.ok a, v)) :
    (Nat.toDigits 10 c.output.indent).length ≤ Json.maxDigits ∧
      ∃ p u, GlobalFile s w u p ∧ u.write p (fileText c) s.fault = (v, none) := by
  obtain ⟨p, u, hpath, h⟩ := Work.ok_of_bind h
  dsimp only at h
  split at h
  · obtain ⟨_, u', hcrash, -⟩ := Work.ok_of_bind h
    cases hcrash
  · next hshort =>
    exact ⟨by omega, p, u, globalFile_of_globalPath hpath, Work.change_ok h⟩

/-- The directory of the user's file is still there after the file was written, and need not be made. -/
theorem GlobalFile.of_write {fault : Option AtomicWrite.Fault} {u : Workspace} {p : Path} {text : String}
    (h : GlobalFile s w u p) (hwrite : u.write p text fault = (v, none)) : GlobalFile s v v p := by
  obtain @⟨d, hd, -⟩ := h
  have hparent : (d.child "config.json").parent = d := by
    rw [Path.child, Path.parent, List.dropLast_concat]
  obtain ⟨u', l, hmade, -, hn, rfl⟩ := Workspace.eq_put_of_write hwrite
  rw [hparent] at hmade
  obtain ⟨m, hm, hdirectory⟩ := Workspace.makeDirectories_ok hmade
  have hkeeps := Workspace.keepsDirectories_put hn (.file (Utf8.encode text.toList))
  exact ⟨hd, Workspace.makeDirectories_of_directory
    (Workspace.locate_of_keepsDirectories hkeeps rfl hm) (hkeeps m hdirectory)⟩

/-- **The settings of the user survive saving.** Any text may stand in them, as long as the marker has a
character. -/
theorem loadGlobal_saveGlobal {c : Settings} (hmarker : c.parser.marker ≠ "") {s : Surroundings}
    {w v : Workspace} (h : saveGlobal c s w = (.ok (), v)) : loadGlobal s v = (.ok c, v) := by
  obtain ⟨hindent, p, u, hfile, hwrite⟩ := saveGlobal_ok h
  rw [loadGlobal_eq, Work.bind_of_ok (globalPath_of_globalFile (hfile.of_write hwrite))]
  exact settingsAt_of_stat hmarker hindent (Workspace.stat_of_write hwrite)

/-- A marker with a quote, a backslash and a line end, an extension with a character beyond the first
65536, and no indentation; the directory of the settings is not there yet. -/
theorem loadGlobal_saveGlobal_escapes :
    ∃ v, saveGlobal
        { parser := { marker := "\"\\\r\n" }
          discovery := { extensions := [".😀", ""] }
          output := { path := "é\u2028", indent := 0 } } {} {} = (.ok (), v) ∧
      loadGlobal {} v = (.ok
        { parser := { marker := "\"\\\r\n" }
          discovery := { extensions := [".😀", ""] }
          output := { path := "é\u2028", indent := 0 } }, v) := by
  have h : saveGlobal
      { parser := { marker := "\"\\\r\n" }
        discovery := { extensions := [".😀", ""] }
        output := { path := "é\u2028", indent := 0 } } {} {} = (.ok (), _) := rfl
  exact ⟨_, h, loadGlobal_saveGlobal (by decide) h⟩

end Settings

end ScriptDoc
