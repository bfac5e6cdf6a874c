import ScriptDoc.Document.Storage
import ScriptDoc.Proofs.Document.Wire
import ScriptDoc.Proofs.Files.AtomicWrite
import ScriptDoc.Proofs.Text.Utf8
import ScriptDoc.Proofs.Work

/-!
# Saving and loading

On its way into a file a document becomes an object, the object a text and the text bytes; on the way
back each layer is undone by the one that reads it.

* `Document.strictText_fileText`: the bytes of a document's text are read as that text;
* `Document.objectOf_fileText`: the text holds the document's object;
* `Document.load_save`: a document that was saved is loaded.
-/

namespace ScriptDoc

open ScriptDoc.Text

namespace Document

/-! ### The text of a document -/

theorem toList_fileText (indent : Option Nat) (d : Document) :
    (fileText indent d).toList = Json.renderAt { indent } 0 d.wire ++ ['\n'] := by
  rw [fileText, Json.render, String.toList_append, String.toList_ofList]
  rfl

/-- Whatever the limits are, a document is not nested too deeply for them. -/
theorem interchange_of_ge {room : Nat} (h : 16 ≤ room) (d : Document) : Interchange room d.wire := by
  obtain ⟨more, rfl⟩ := Nat.exists_eq_add_of_le' h
  exact d.interchange_wire (more + 9)

theorem storable (limits : NestingLimits) (d : Document) : Json.Storable limits.json d.wire :=
  (d.interchange_of_ge limits.json_ge).storable

/-- Reading a document's bytes as a text file changes no line end, as there is no carriage return. -/
theorem strictText_fileText (indent : Option Nat) (d : Document) :
    Workspace.strictText (Utf8.encode (fileText indent d).toList) = .ok (fileText indent d) := by
  have hr : '\r' ∉ (fileText indent d).toList := by
    rw [toList_fileText, List.mem_append, not_or]
    exact ⟨(d.storable {}).carriageReturn_not_mem _ 0, by decide⟩
  exact Workspace.strictText_encode hr

theorem allBlank_fileText (indent : Option Nat) (d : Document) :
    allBlank (fileText indent d) = false := by
  have hb : isBlank '\x7b' = false := by decide
  rw [allBlank, toList_fileText, wire_eq, Value.object_eq, Json.renderAt, Json.enclosed]
  split <;> simp [hb]

theorem objectOf_fileText {format : Format} (hf : format ≠ .yaml) (limits : NestingLimits)
    (indent : Option Nat) (d : Document) : objectOf limits format (fileText indent d) = .ok d.wire := by
  have hy : (format == .yaml) = false := beq_eq_false_iff_ne.2 hf
  have hr : Json.read (fileText indent d).toList limits = .ok d.wire := by
    have h := Json.read_render { indent } (d.storable limits)
    rwa [Json.render, String.toList_ofList, ← toList_fileText] at h
  rw [objectOf, parseContent, hy, hr]
  rfl

/-- The bytes of a document's text tell the document. -/
theorem encode_fileText_injective (indent : Option Nat) :
    (fun d : Document => Utf8.encode (fileText indent d).toList).Injective := by
  intro d e h
  have htext := strictText_fileText indent d
  dsimp only at h
  rw [h, strictText_fileText] at htext
  have hjson : Format.json ≠ .yaml := by decide
  have hobject := objectOf_fileText hjson {} indent d
  rw [← Except.ok.inj htext, objectOf_fileText hjson] at hobject
  have hcheck := check_wire d
  rw [← Except.ok.inj hobject, check_wire] at hcheck
  exact (Checked.good.inj hcheck).symm

/-! ### Files -/

theorem ofPath_ne_yaml {p : Path} (hy : lowered p.suffix ≠ ".yaml")
    (hm : lowered p.suffix ≠ ".yml") : Format.ofPath p ≠ .yaml := by
  dsimp only [Format.ofPath]
  split
  · decide
  · simp [hy, hm]

theorem ofString_file {path : String} (hdash : path ≠ "-") (hhttp : ¬ "http://".toList <+: path.toList)
    (hhttps : ¬ "https://".toList <+: path.toList) : Source.ofString path = .file path := by
  rw [Source.ofString, if_neg (by simpa using hdash), if_neg]
  rw [Bool.or_eq_true, List.isPrefixOf_iff_prefix, List.isPrefixOf_iff_prefix, not_or]
  exact ⟨hhttp, hhttps⟩

/-- A document is saved by writing its text. -/
theorem write_of_save {indent : Option Nat} {path : String} {d : Document} {s : Surroundings}
    {w v : Workspace} {p : Path} (h : save indent path d s w = (.ok p, v)) :
    w.write (Path.ofString path) (fileText indent d) s.fault = (v, none) := by
  unfold save at h
  split at h
  · cases h
  · obtain ⟨_, _, hs, h⟩ := Work.ok_of_bind h
    cases hs
    obtain ⟨_, u, hu, hp⟩ := Work.ok_of_bind h
    have hw := Work.change_ok hu
    cases hp
    exact hw

/-- A file that holds a document's text is read as what the text holds. -/
theorem readFile_of_stat {indent : Option Nat} {path : String} {d : Document} {w : Workspace}
    (h : w.stat (Path.ofString path) = .ok (.file (Utf8.encode (fileText indent d).toList)))
    (s : Surroundings) :
    readFile path s w = (objectOf s.limits (.ofPath (Path.ofString path)) (fileText indent d), w) := by
  unfold readFile
  rw [Work.bind_of_ok (Work.inspect_of_ok (Workspace.isFile_of_stat h)), if_pos rfl,
    Work.bind_of_ok (Work.inspect_of_ok (Workspace.read_of_stat h)), strictText_fileText]
  simp only [allBlank_fileText]
  rfl

/-- A file that holds a document's text is loaded as the document, if the text holds the document's
object for a file of that name. -/
theorem load_of_stat {indent : Option Nat} {path : String} {d : Document} {w : Workspace}
    (hfile : Source.ofString path = .file path)
    (hobject : ∀ limits, objectOf limits (.ofPath (Path.ofString path)) (fileText indent d) = .ok d.wire)
    (h : w.stat (Path.ofString path) = .ok (.file (Utf8.encode (fileText indent d).toList)))
    (s : Surroundings) : load path s w = (.ok d, w) := by
  have hread := readFile_of_stat h s
  rw [hobject] at hread
  unfold load readSource
  rw [hfile, Work.bind_of_ok hread, Work.bind_of_ok (rfl : Work.surroundings s w = (.ok s, w)),
    (d.interchange_wire 0).arranged_eq, check_wire]
  rfl

/-- **A document that was saved is loaded again.** Any text may stand in it, any indentation and any
surroundings will do, and the path may lead to a file in any directory; only the suffixes of YAML are
left out, as files with them are not read as JSON. -/
theorem load_save {indent : Option Nat} {path : String} {d : Document} {s : Surroundings}
    {w v : Workspace} {p : Path} (hdash : path ≠ "-") (hhttp : ¬ "http://".toList <+: path.toList)
    (hhttps : ¬ "https://".toList <+: path.toList)
    (hyaml : lowered (Path.ofString path).suffix ≠ ".yaml")
    (hyml : lowered (Path.ofString path).suffix ≠ ".yml")
    (h : save indent path d s w = (.ok p, v)) (t : Surroundings) : load path t v = (.ok d, v) :=
  load_of_stat (ofString_file hdash hhttp hhttps)
    (objectOf_fileText (ofPath_ne_yaml hyaml hyml) · indent d) (Workspace.stat_of_write (write_of_save h)) t

/-- A global whose name holds a quote, a backslash, a carriage return, a line separator and a
character beyond the first 65536, saved in a directory that is not there yet. -/
theorem load_save_new_directory :
    ∃ v, save (some 0) "out/notes.JSON"
          ⟨[], [], [{ name := "\"\\\r\u2028😀", value := some "" }]⟩ {} {}
        = (.ok ⟨"", ["out", "notes.JSON"]⟩, v) ∧
      load "out/notes.JSON" {} v
        = (.ok ⟨[], [], [{ name := "\"\\\r\u2028😀", value := some "" }]⟩, v) := by
  have h : save (some 0) "out/notes.JSON"
        ⟨[], [], [{ name := "\"\\\r\u2028😀", value := some "" }]⟩ {} {}
      = (.ok ⟨"", ["out", "notes.JSON"]⟩, _) := rfl
  exact ⟨_, h, load_save (by decide) (by decide) (by decide) (by decide) (by decide) h {}⟩

end Document

end ScriptDoc
