import ScriptDoc.Command.Program
import ScriptDoc.Proofs.Command.Session
import ScriptDoc.Proofs.Document.History
import ScriptDoc.Proofs.Document.Loading
import ScriptDoc.Proofs.Document.Storage
import ScriptDoc.Proofs.Settings.Resolution

/-!
# Merging in one run and in a chain of runs

Documents can be merged one after another in one run of the program, or in a chain of runs, each of
which merges the next document into the file that the one before has written. Both give the same file:
what is saved is loaded again, and nothing is lost on the way. Each run is a process of its own, so this
is so only if all of them load the same documents, and if the files in between are read back as files.

* `Workspace.HoldsDocument`, a path at which some processes load a document, which they do as long as
  nothing is lost;
* `Program.AsksToMerge`, the words of a merge, and `Program.CanWrite`, surroundings in which its result
  is written to a new file;
* `Program.run_merge`: what a run that merges leaves;
* `Program.MergeChain`, a chain of runs, and `Program.MergeChain.stat`: what it leaves;
* `Program.merge_cumulative_eq_chain`, and `Program.merge_chain_ne_cumulative` where one of the two
  conditions does not hold.
-/

namespace ScriptDoc

open ScriptDoc.Text

/-! ### Documents in a workspace -/

/-- A path of a file from which a document is loaded, the same one by each of some processes. -/
structure Workspace.HoldsDocument (w : Workspace) (processes : Surroundings → Prop) (path : String)
    (d : Document) : Prop where
  isFile : Source.ofString path = .file path
  loads : ∀ s, processes s → (Document.load path s w).1 = .ok d

namespace Document

variable {path : String} {d : Document} {s : Surroundings} {w v : Workspace}

theorem readSource_of_file (h : Source.ofString path = .file path) :
    readSource path = readFile path := by
  simp only [readSource, h]

/-- A file from which a document is loaded is there. -/
theorem stat_of_load (hfile : Source.ofString path = .file path) (h : load path s w = (.ok d, v)) :
    ∃ bytes, w.stat (Path.ofString path) = .ok (.file bytes) := by
  rw [load, readSource_of_file hfile] at h
  obtain ⟨object, u, hread, -⟩ := Work.ok_of_bind h
  unfold readFile at hread
  obtain ⟨-, hno⟩ | hstat | ⟨-, -, hno⟩ := w.isFile_cases (Path.ofString path)
  · rw [Work.bind_of_error (Work.inspect_of_error hno)] at hread
    cases hread
  · exact hstat
  · rw [Work.bind_of_ok (Work.inspect_of_ok hno)] at hread
    cases hread

/-- The object that the bytes of a file hold. -/
def objectOfBytes (limits : NestingLimits) (path : String) (bytes : List UInt8) : Except Trouble Value :=
  match Workspace.strictText bytes with
  | .error e => .error (.failure (.documentUndecodable path e))
  | .ok content =>
    if allBlank content then .error (.failure (.documentEmpty path))
    else objectOf limits (.ofPath (Path.ofString path)) content

theorem readFile_eq {bytes : List UInt8} (h : w.stat (Path.ofString path) = .ok (.file bytes))
    (s : Surroundings) : readFile path s w = (objectOfBytes s.limits path bytes, w) := by
  unfold readFile objectOfBytes
  rw [Work.bind_of_ok (Work.inspect_of_ok (Workspace.isFile_of_stat h)), if_pos rfl,
    Work.bind_of_ok (Work.inspect_of_ok (Workspace.read_of_stat h))]
  cases Workspace.strictText bytes with
  | error e => rfl
  | ok content =>
    dsimp only
    split <;> rfl

/-- What a process loads from a file depends on its bytes alone. -/
theorem load_congr {bytes : List UInt8} (hfile : Source.ofString path = .file path)
    (hw : w.stat (Path.ofString path) = .ok (.file bytes))
    (hv : v.stat (Path.ofString path) = .ok (.file bytes)) (s : Surroundings) :
    (load path s v).1 = (load path s w).1 := by
  have hreadW := readFile_eq hw s
  have hreadV := readFile_eq hv s
  rw [load, readSource_of_file hfile]
  cases hobject : objectOfBytes s.limits path bytes with
  | error t =>
    rw [hobject] at hreadW hreadV
    rw [Work.bind_of_error hreadW, Work.bind_of_error hreadV]
  | ok object =>
    rw [hobject] at hreadW hreadV
    rw [Work.bind_of_ok hreadW, Work.bind_of_ok hreadV,
      Work.bind_of_ok (rfl : Work.surroundings s v = (.ok s, v)),
      Work.bind_of_ok (rfl : Work.surroundings s w = (.ok s, w))]
    cases check (object.arranged s.setOrder) <;> rfl

end Document

namespace Workspace.HoldsDocument

variable {w v : Workspace} {processes : Surroundings → Prop} {s : Surroundings} {path : String} {d : Document}

theorem load_eq (h : w.HoldsDocument processes path d) (hs : processes s) :
    Document.load path s w = (.ok d, w) :=
  Prod.ext (h.loads s hs) (Document.looks_load path s w)

/-- A document is loaded as long as nothing is lost. -/
theorem of_extends (h : w.HoldsDocument processes path d) (hv : w.Extends v) :
    v.HoldsDocument processes path d := by
  refine ⟨h.isFile, fun s hs => ?_⟩
  obtain ⟨bytes, hstat⟩ := Document.stat_of_load h.isFile (h.load_eq hs)
  rw [Document.load_congr h.isFile hstat (hv.stat hstat), h.loads s hs]

/-- A file that holds the text of a document. -/
theorem of_stat {indent : Option Nat} (hfile : Source.ofString path = .file path)
    (hyaml : Format.ofPath (Path.ofString path) ≠ .yaml)
    (hstat : w.stat (Path.ofString path) =
      .ok (.file (Utf8.encode (Document.fileText indent d).toList))) :
    w.HoldsDocument processes path d := by
  refine ⟨hfile, fun s _ => ?_⟩
  rw [Document.load_of_stat hfile (Document.objectOf_fileText hyaml · indent d) hstat s]

end Workspace.HoldsDocument

/-! ### One run -/

/-- Saving a document writes its text, unless the indentation is too wide. -/
theorem Document.save_of_write {indent : Nat} {path : String} {d : Document} {s : Surroundings}
    {w v : Workspace} (hindent : indent ≤ maxIndent)
    (h : w.write (Path.ofString path) (fileText (some indent) d) s.fault = (v, none)) :
    save (some indent) path d s w = (.ok (Path.ofString path), v) := by
  have hchange : Work.change (·.write (Path.ofString path) (fileText (some indent) d) s.fault) s w =
      (.ok (), v) := by simp only [Work.change, h]
  unfold save
  rw [if_neg (by simpa using hindent)]
  dsimp only
  rw [Work.bind_of_ok (rfl : Work.surroundings s w = (.ok s, w)), Work.bind_of_ok hchange]
  rfl

namespace Command

variable {c : Console} {processes : Surroundings → Prop} {s : Surroundings} {w u v : Workspace}

theorem ends_loadDocuments {paths : List String} {ds : List Document} (hs : processes s)
    (h : List.Forall₂ (w.HoldsDocument processes) paths ds) :
    Session.Ends (loadDocuments paths) c s w ds w := by
  induction h with
  | nil => exact Session.ends_pure []
  | cons hd _ ih =>
    refine (Session.ends_print _).bind ?_
    exact (Session.ends_perform (hd.load_eq hs)).bind (ih.bind (Session.ends_pure _))

theorem ends_deliver {d : Document} {output : OutputSettings} {path : Option String}
    (hindent : output.indent ≤ Document.maxIndent)
    (hwrite : w.write (Path.ofString output.path) (Document.fileText (some output.indent) d) s.fault =
      (v, none)) :
    Session.Ends (deliver d output ⟨path, false⟩) c s w () v :=
  (Session.ends_attempt (Document.save_of_write hindent hwrite)).bind (Session.ends_print _)

/-- The name of standard input is no path of a file. -/
theorem count_hyphen {paths : List String} {ds : List Document}
    (h : List.Forall₂ (w.HoldsDocument processes) paths ds) : paths.count "-" = 0 := by
  rw [List.count_eq_zero]
  intro hmem
  induction h with
  | nil => cases hmem
  | cons hd _ ih =>
    obtain heq | hmem := List.mem_cons.1 hmem
    · have hfile := hd.isFile
      rw [← heq] at hfile
      exact absurd hfile (by decide)
    · exact ih hmem

/-- A merge whose documents can be loaded and whose result can be written. -/
theorem ends_runMerge {paths : List String} {ds : List Document} {cumulative : Bool} {out : String}
    {settings : Settings} (htwo : 2 ≤ paths.length) (hs : processes s)
    (hdocs : List.Forall₂ (w.HoldsDocument processes) paths ds)
    (hsettings : Settings.resolve { output := some out } s w = (.ok settings, u))
    (hindent : settings.output.indent ≤ Document.maxIndent)
    (hwrite : u.write (Path.ofString out) (Document.fileText (some settings.output.indent)
      (Document.fold (cumulative || settings.merge.cumulative) ds)) s.fault = (v, none)) :
    Session.Ends (runMerge paths cumulative ⟨some out, false⟩) c s w () v := by
  have hgains := Settings.keepsFiles_resolve { output := some out } s w
  rw [hsettings] at hgains
  have hloaded : List.Forall₂ (u.HoldsDocument processes) paths ds :=
    hdocs.imp fun _ _ hd => hd.of_extends hgains.extends
  rw [← Settings.output_path_of_resolve hsettings] at hwrite
  unfold runMerge
  dsimp only
  rw [if_neg (by omega), if_neg (by rw [count_hyphen hdocs]; omega)]
  refine (Session.ends_perform hsettings).bind ((ends_loadDocuments hs hloaded).bind ?_)
  -- The fold stays a name: what is merged and noticed plays no part in what follows.
  obtain ⟨⟨d, notices⟩, hfold⟩ :
      ∃ r, Document.foldLogged (cumulative || settings.merge.cumulative) ds = r := ⟨_, rfl⟩
  rw [Document.fold, hfold] at hwrite
  have hlast (c : Console) : Session.Ends (do
      Session.notices notices
      deliver d settings.output ⟨some out, false⟩) c s u () v :=
    (Session.ends_print _).bind (ends_deliver hindent hwrite)
  simp only [hfold]
  split
  · exact (Session.ends_print _).bind (hlast c)
  · exact hlast c

end Command

namespace Program

variable {processes : Surroundings → Prop} {s : Surroundings} {words : List String} {w v : Workspace}

/-- Words that ask for documents to be merged into a file. -/
def AsksToMerge (words : List String) (paths : List String) (cumulative : Bool) (out : String) : Prop :=
  ∃ o, Invocation.ofWords words = .command o (.merge paths cumulative ⟨some out, false⟩)

/-- Operands in front of other words. -/
theorem sortFrom_operands {specs : List OptionSpec} {operands : List String}
    (h : ∀ x ∈ operands, Words.isOption x.toList = false) (rest : List String) :
    Words.sortFrom specs true none (operands ++ rest) =
      (Words.sortFrom specs true none rest).map fun w =>
        { w with operands := operands ++ w.operands } := by
  induction operands with
  | nil =>
    rw [List.nil_append]
    cases Words.sortFrom specs true none rest <;> rfl
  | cons x operands ih =>
    have hx := h x List.mem_cons_self
    have hdashes : (x == "--") = false := by
      rw [beq_eq_false_iff_ne]
      rintro rfl
      exact absurd hx (by decide)
    rw [List.cons_append, Words.sortFrom, hdashes, hx, ih fun y hy => h y (List.mem_cons_of_mem x hy)]
    cases Words.sortFrom specs true none rest <;> rfl

/-- The words of a merge: the documents, none of which looks like an option, and where the result goes. -/
theorem asksToMerge_words {paths : List String} (hne : paths ≠ [])
    (h : ∀ x ∈ paths, Words.isOption x.toList = false) (cumulative : Bool) (out : String) :
    AsksToMerge ("merge" :: paths ++ (if cumulative then ["--cumulative"] else []) ++ ["--out", out])
      paths cumulative out := by
  -- the name of the command is the first operand of the program, and all that follows is the command's
  have hcommand (rest : List String) : Invocation.ofWords ("merge" :: rest) =
      Invocation.ofCommand {} ["merge"] ⟨Invocation.destinationOptions ++ [⟨["--cumulative"], false⟩],
        fun w =>
          if w.operands.isEmpty then .error (.missingOperand "DOCUMENTS")
          else .ok (.merge w.operands (w.has "--cumulative") (Invocation.destination w))⟩ rest := rfl
  refine ⟨{}, ?_⟩
  rw [List.cons_append, List.cons_append, List.append_assoc, hcommand, Invocation.ofCommand, Words.sort,
    sortFrom_operands h]
  have hoptions : Words.sortFrom (Invocation.helpOption ::
      (Invocation.destinationOptions ++ [⟨["--cumulative"], false⟩])) true none
      ((if cumulative then ["--cumulative"] else []) ++ ["--out", out]) =
      .ok ⟨(if cumulative then [⟨"--cumulative", none⟩] else []) ++ [⟨"--out", some out⟩], []⟩ := by
    cases cumulative <;> rfl
  rw [hoptions]
  cases cumulative <;>
    simp [Except.map, Invocation.screen?, hne, Words.has, Invocation.destination, Words.value?,
      Words.values]

theorem run_of_asksToMerge {paths : List String} {cumulative : Bool} {out : String}
    (h : AsksToMerge words paths cumulative out)
    (hends : ∀ c, Session.Ends (Command.runMerge paths cumulative ⟨some out, false⟩) c s w () v) :
    ∃ printed, run s words w = (.ok ⟨0, printed⟩, v) := by
  obtain ⟨o, hwords⟩ := h
  obtain ⟨hresult, hworkspace⟩ := hends (consoleFor s o)
  refine ⟨(Command.runMerge paths cumulative ⟨some out, false⟩ (consoleFor s o) s w).printed, ?_⟩
  rw [run, hwords]
  dsimp only
  rw [runCommand, Command.run, hresult, hworkspace]

/-- A merge whose first document cannot be loaded. -/
theorem run_of_load_error {path out : String} {paths : List String} {cumulative : Bool} {settings : Settings}
    {u : Workspace} {f : Failure} (h : AsksToMerge words (path :: paths) cumulative out)
    (htwo : 2 ≤ (path :: paths).length) (hcount : (path :: paths).count "-" ≤ 1)
    (hsettings : Settings.resolve { output := some out } s w = (.ok settings, u))
    (hload : Document.load path s u = (.error (.failure f), u)) :
    ∃ printed, run s words w = (.ok ⟨f.exitCode, printed⟩, u) := by
  have hstops (c : Console) : Session.Stops (Command.runMerge (path :: paths) cumulative ⟨some out, false⟩)
      c s w (.trouble (.failure f)) u := by
    unfold Command.runMerge
    dsimp only
    rw [if_neg (by omega), if_neg (by omega)]
    refine (Session.ends_perform hsettings).bind_stops (Session.Stops.bind ?_ _)
    exact (Session.ends_print _).bind_stops ((Session.stops_perform hload).bind _)
  obtain ⟨o, hwords⟩ := h
  obtain ⟨hresult, hworkspace⟩ := hstops (consoleFor s o)
  refine ⟨(Command.runMerge (path :: paths) cumulative ⟨some out, false⟩ (consoleFor s o) s w).printed ++
    (consoleFor s o).error f.message, ?_⟩
  rw [run, hwords]
  dsimp only
  rw [runCommand, Command.run, hresult, hworkspace]

/-- No step of a write is refused, the effective settings have an indentation with which documents are
written, and a path takes a new file. -/
def CanWrite (indent : Nat) (s : Surroundings) (w : Workspace) (out : String) : Prop :=
  s.fault = none ∧ indent ≤ Document.maxIndent ∧ ∃ settings u,
    Settings.resolve { output := some out } s w = (.ok settings, u) ∧
      settings.output.indent = indent ∧ u.TakesNewFile (Path.ofString out)

/-- **What a run that merges leaves:** the text of the merged documents, and all that was there before. -/
theorem run_merge {paths : List String} {ds : List Document} {cumulative : Bool} {out : String}
    {indent : Nat} (htwo : 2 ≤ paths.length) (hs : processes s)
    (hdocs : List.Forall₂ (w.HoldsDocument processes) paths ds)
    (hasks : AsksToMerge words paths cumulative out) (hready : CanWrite indent s w out) :
    ∃ printed v c, run s words w = (.ok ⟨0, printed⟩, v) ∧ w.Extends v ∧
      (cumulative = true → c = true) ∧ v.stat (Path.ofString out) =
        .ok (.file (Utf8.encode (Document.fileText (some indent) (Document.fold c ds)).toList)) := by
  obtain ⟨hfault, hindent, settings, u, hsettings, rfl, hnew⟩ := hready
  obtain ⟨v, hwrite⟩ := hnew.writable (Document.fileText (some settings.output.indent)
    (Document.fold (cumulative || settings.merge.cumulative) ds))
  rw [← hfault] at hwrite
  obtain ⟨printed, hrun⟩ := run_of_asksToMerge hasks fun c =>
    Command.ends_runMerge htwo hs hdocs hsettings hindent hwrite
  have hgains := Settings.keepsFiles_resolve { output := some out } s w
  rw [hsettings] at hgains
  exact ⟨printed, v, _, hrun, hgains.extends.trans (hnew.extends hwrite), fun h => by rw [h]; rfl,
    Workspace.stat_of_write hwrite⟩

/-! ### A chain of runs -/

/-- A path of a JSON file, which is read as one. -/
structure IsJsonFile (path : String) : Prop where
  isFile : Source.ofString path = .file path
  suffix : lowered (Path.ofString path).suffix = ".json"

theorem IsJsonFile.ofPath_ne_yaml {path : String} (h : IsJsonFile path) :
    Format.ofPath (Path.ofString path) ≠ .yaml := by
  apply Document.ofPath_ne_yaml
  · rw [h.suffix]
    decide
  · rw [h.suffix]
    decide

/-- A chain of runs, each a process with surroundings of its own but all with one indentation. It starts
with a file, and each run merges the next document into the file before, with the result in a new file.
All of these but the last one are read back. -/
inductive MergeChain (processes : Surroundings → Prop) (indent : Nat) :
    Workspace → String → List String → Workspace → String → Prop
  | done (w : Workspace) (source : String) : MergeChain processes indent w source [] w source
  | step {w v : Workspace} {source path out target : String} {rest : List String} {s : Surroundings}
      {words : List String} (process : processes s) (asks : AsksToMerge words [source, path] false out)
      (ready : CanWrite indent s w out) (json : rest ≠ [] → IsJsonFile out)
      (next : MergeChain processes indent (run s words w).2 out rest v target) :
      MergeChain processes indent w source (path :: rest) v target

/-- Two documents are merged in one way only. -/
theorem fold_pair (c : Bool) (a b : Document) : Document.fold c [a, b] = a.merge b := by
  cases c <;> rfl

/-- One run of a chain: its file holds the text of the merged document, and documents stay. -/
theorem run_merge_pair {source path out : String} {d e : Document} {indent : Nat} (hs : processes s)
    (hd : w.HoldsDocument processes source d) (he : w.HoldsDocument processes path e)
    (hasks : AsksToMerge words [source, path] false out) (hready : CanWrite indent s w out) :
    w.Extends (run s words w).2 ∧ (run s words w).2.stat (Path.ofString out) =
      .ok (.file (Utf8.encode (Document.fileText (some indent) (d.merge e)).toList)) := by
  obtain ⟨printed, v, c, hrun, hextends, -, hstat⟩ :=
    run_merge (by simp) hs (.cons hd (.cons he .nil)) hasks hready
  rw [fold_pair] at hstat
  rw [hrun]
  exact ⟨hextends, hstat⟩

/-- **What a chain leaves:** if it starts with the text of a document, it ends with the text of all
documents merged into it. -/
theorem MergeChain.stat {indent : Nat} {source target : String} {paths : List String}
    (chain : MergeChain processes indent w source paths v target) {d : Document} {ds : List Document}
    (hsource : paths ≠ [] → IsJsonFile source)
    (hstat : w.stat (Path.ofString source) =
      .ok (.file (Utf8.encode (Document.fileText (some indent) d).toList)))
    (hdocs : List.Forall₂ (w.HoldsDocument processes) paths ds) :
    v.stat (Path.ofString target) =
      .ok (.file (Utf8.encode (Document.fileText (some indent) (ds.foldl Document.merge d)).toList)) := by
  induction chain generalizing d ds with
  | done w source =>
    cases hdocs
    exact hstat
  | step process asks ready json next ih =>
    obtain _ | ⟨he, hrest⟩ := hdocs
    have hjson := hsource (List.cons_ne_nil _ _)
    obtain ⟨hextends, hout⟩ :=
      run_merge_pair process (.of_stat hjson.isFile hjson.ofPath_ne_yaml hstat) he asks ready
    have hkept := hrest.imp fun _ _ h => h.of_extends hextends
    rw [List.foldl_cons]
    exact ih json hout hkept

/-- **One cumulative merge writes what a chain of merges writes.** The documents are files that can be
loaded, two or more, and all processes load the same; the run on all of them may find them in the
workspace where the chain starts or in any other one that holds them, such as the one where the chain
ends. -/
theorem merge_cumulative_eq_chain {indent : Nat} {first second out target : String}
    {rest : List String} {ds : List Document} {u w v : Workspace} (hs : processes s)
    (hu : List.Forall₂ (u.HoldsDocument processes) (first :: second :: rest) ds)
    (hw : List.Forall₂ (w.HoldsDocument processes) (first :: second :: rest) ds)
    (hasks : AsksToMerge words (first :: second :: rest) true out) (hready : CanWrite indent s u out)
    (chain : MergeChain processes indent w first (second :: rest) v target) :
    ∃ printed bytes, (run s words u).1 = .ok ⟨0, printed⟩ ∧
      (run s words u).2.read (Path.ofString out) = .ok bytes ∧
      v.read (Path.ofString target) = .ok bytes := by
  obtain ⟨printed, z, c, hrun, -, hc, hstat⟩ := run_merge (by simp) hs hu hasks hready
  cases hc rfl
  obtain _ | ⟨hd, hrest⟩ := hw
  obtain _ | ⟨he, hrest⟩ := hrest
  rw [Document.fold_cumulative, List.foldl_cons] at hstat
  cases chain with
  | step process asks ready json next =>
    obtain ⟨hextends, hout⟩ := run_merge_pair process hd he asks ready
    have hchain := next.stat json hout (hrest.imp fun _ _ h => h.of_extends hextends)
    rw [hrun]
    exact ⟨printed, _, rfl, Workspace.read_of_stat hstat, Workspace.read_of_stat hchain⟩

/-- All processes. -/
def AnyProcess (_ : Surroundings) : Prop := True

/-- A directory for settings, three documents in files of their own, and perhaps more. -/
def threeDocuments (more : List (Location × Node)) : Workspace where
  entries := [([".config"], .directory), ([".config", "scardoc"], .directory),
    (["a.json"], .file (Utf8.encode
      (Document.fileText none ⟨[], [], [{ name := "Size", value := some "1" }]⟩).toList)),
    (["b.json"], .file (Utf8.encode
      (Document.fileText (some 4) ⟨[], [⟨"Side", [⟨"Left", some "0"⟩]⟩], []⟩).toList)),
    (["c.json"], .file (Utf8.encode
      (Document.fileText none ⟨[], [], [{ name := "Size", value := some "2" }]⟩).toList))] ++ more

theorem holdsDocument_threeDocuments (processes : Surroundings → Prop) :
    List.Forall₂ ((threeDocuments []).HoldsDocument processes) ["a.json", "b.json", "c.json"]
      [⟨[], [], [{ name := "Size", value := some "1" }]⟩,
        ⟨[], [⟨"Side", [⟨"Left", some "0"⟩]⟩], []⟩,
        ⟨[], [], [{ name := "Size", value := some "2" }]⟩] :=
  .cons (.of_stat (by decide) (by decide) rfl) (.cons (.of_stat (by decide) (by decide) rfl)
    (.cons (.of_stat (by decide) (by decide) rfl) .nil))

/-- Settings in a workspace that has a directory for them, but no file. -/
theorem resolve_of_no_file {order : SetOrder} (out : String)
    (hmade : w.makeDirectories ⟨"/", [".config", "scardoc"]⟩ = (w, none))
    (hglobal : w.isFile ⟨"/", [".config", "scardoc", "config.json"]⟩ = .ok false)
    (hhere : w.here = []) (hproject : w.isFile ⟨"/", [".scardoc.json"]⟩ = .ok false) :
    Settings.resolve { output := some out } { setOrder := order } w =
      (.ok { output := { path := out } }, w) := by
  have hpath : Settings.projectPath w = ⟨"/", [".scardoc.json"]⟩ := by
    rw [Settings.projectPath, hhere]
    rfl
  have hfile : Settings.GlobalFile { setOrder := order } w w ⟨"/", [".config", "scardoc", "config.json"]⟩ :=
    .mk (p := ⟨"/", [".config", "scardoc"]⟩) rfl hmade
  exact Settings.resolve_defaults out hfile hglobal (by rw [hpath, hproject]) rfl rfl rfl

theorem canWrite_threeDocuments :
    CanWrite 2 {} (threeDocuments []) "f.json" ∧ CanWrite 2 {} (threeDocuments []) "t2.json" ∧
      ∀ bytes, CanWrite 2 {} (threeDocuments [(["t2.json"], .file bytes)]) "t3.json" := by
  refine ⟨⟨rfl, by decide, _, _, resolve_of_no_file _ rfl rfl rfl rfl, rfl, ?_⟩,
    ⟨rfl, by decide, _, _, resolve_of_no_file _ rfl rfl rfl rfl, rfl, ?_⟩,
    fun bytes => ⟨rfl, by decide, _, _, resolve_of_no_file _ rfl rfl rfl rfl, rfl, ?_⟩⟩
  · exact .of_locate (d := []) rfl rfl (by decide) (by decide +kernel) (by decide) rfl rfl
  · exact .of_locate (d := []) rfl rfl (by decide) (by decide +kernel) (by decide) rfl rfl
  · have hname : AtomicWrite.freshName (threeDocuments [(["t2.json"], .file bytes)]) []
        (Path.ofString "t3.json").name = ".t3.json.00000000.tmp" := rfl
    exact .of_locate (d := []) rfl rfl (by decide) (by rw [hname]; decide) (by decide) rfl rfl

theorem asksToMerge_pair {x y : String} (z : String)
    (h : ∀ p ∈ [x, y], Words.isOption p.toList = false) :
    AsksToMerge ["merge", x, y, "--out", z] [x, y] false z :=
  asksToMerge_words (by simp) h false z

/-- The first run of a chain leaves one more file, and perhaps its directory. -/
theorem run_threeDocuments {out : String} {l : Location} (made : List (Location × Node))
    (hwrite : ∀ text, (threeDocuments []).write (Path.ofString out) text =
      (threeDocuments (made ++ [(l, .file (Utf8.encode text.toList))]), none)) :
    ∃ printed bytes, run {} ["merge", "a.json", "b.json", "--out", out] (threeDocuments []) =
      (.ok ⟨0, printed⟩, threeDocuments (made ++ [(l, .file bytes)])) := by
  obtain _ | ⟨ha, hrest⟩ := holdsDocument_threeDocuments AnyProcess
  obtain _ | ⟨hb, -⟩ := hrest
  obtain ⟨printed, hrun⟩ := run_of_asksToMerge (asksToMerge_pair out (by decide)) fun c =>
    Command.ends_runMerge (by simp) trivial (.cons ha (.cons hb .nil)) (resolve_of_no_file _ rfl rfl rfl rfl)
      (Nat.le_of_ble_eq_true rfl) (hwrite _)
  exact ⟨printed, _, hrun⟩

theorem mergeChain_threeDocuments :
    ∃ v, MergeChain AnyProcess 2 (threeDocuments []) "a.json" ["b.json", "c.json"] v "t3.json" := by
  obtain ⟨-, ht₂, ht₃⟩ := canWrite_threeDocuments
  have hmake : (threeDocuments []).makeDirectories (Path.ofString "t2.json").parent =
      (threeDocuments [], none) := rfl
  have hlocate : (threeDocuments []).locate (Path.ofString "t2.json").parent = .ok [] := rfl
  obtain ⟨printed, bytes, hrun⟩ := run_threeDocuments (l := ["t2.json"]) []
    (AtomicWrite.run_eq hmake hlocate (by decide) (by decide +kernel) (by decide) rfl (by decide))
  have hlast : MergeChain AnyProcess 2 (threeDocuments [(["t2.json"], .file bytes)]) "t2.json"
      ["c.json"] _ "t3.json" :=
    .step trivial (asksToMerge_pair "t3.json" (by decide)) (ht₃ bytes) (by simp) (.done _ _)
  have hnext : (run {} ["merge", "a.json", "b.json", "--out", "t2.json"] (threeDocuments [])).2 =
      threeDocuments [(["t2.json"], .file bytes)] := by rw [hrun]; rfl
  rw [← hnext] at hlast
  exact ⟨_, .step trivial (asksToMerge_pair "t2.json" (by decide)) ht₂
    (fun _ => ⟨by decide, by decide⟩) hlast⟩

/-- Three documents, one of which changes what another one says. -/
theorem merge_cumulative_eq_chain_three :
    ∃ v printed bytes,
      MergeChain AnyProcess 2 (threeDocuments []) "a.json" ["b.json", "c.json"] v "t3.json" ∧
      (run {} ["merge", "a.json", "b.json", "c.json", "--cumulative", "--out", "f.json"]
        (threeDocuments [])).1 = .ok ⟨0, printed⟩ ∧
      (run {} ["merge", "a.json", "b.json", "c.json", "--cumulative", "--out", "f.json"]
        (threeDocuments [])).2.read (Path.ofString "f.json") = .ok bytes ∧
      v.read (Path.ofString "t3.json") = .ok bytes := by
  obtain ⟨v, chain⟩ := mergeChain_threeDocuments
  have hprocess : AnyProcess {} := trivial
  obtain ⟨printed, bytes, hrun, hout, hlast⟩ := merge_cumulative_eq_chain hprocess
    (holdsDocument_threeDocuments AnyProcess) (holdsDocument_threeDocuments AnyProcess)
    (asksToMerge_words (by simp) (by decide) true "f.json") canWrite_threeDocuments.1 chain
  exact ⟨v, printed, bytes, chain, hrun, hout, hlast⟩

/-- A file whose name is a web address is not read back: the next run of the chain asks a server. -/
theorem run_asks_server :
    ∃ printed printed' v,
      run {} ["merge", "a.json", "b.json", "--out", "http://t2.json"] (threeDocuments []) =
        (.ok ⟨0, printed⟩, v) ∧
      run {} ["merge", "http://t2.json", "c.json", "--out", "t3.json"] v = (.ok ⟨5, printed'⟩, v) ∧
      (v.file? ["http:", "t2.json"]).isSome = true ∧ v.file? ["t3.json"] = none := by
  have hmake : (threeDocuments []).makeDirectories (Path.ofString "http://t2.json").parent =
      (threeDocuments [(["http:"], .directory)], none) := rfl
  have hlocate : (threeDocuments [(["http:"], .directory)]).locate
      (Path.ofString "http://t2.json").parent = .ok ["http:"] := rfl
  have htarget : (threeDocuments [(["http:"], .directory)]).locate (Path.ofString "http://t2.json") =
      .ok ["http:", "t2.json"] := rfl
  obtain ⟨printed, bytes, hrun⟩ := run_threeDocuments [(["http:"], .directory)]
    (AtomicWrite.run_eq hmake hlocate (by decide) (by decide +kernel) (by decide) htarget (by decide))
  have haccepts : ({} : Surroundings).client.accepts "http://t2.json" = true := by decide +kernel
  obtain ⟨printed', hnext⟩ := run_of_load_error
    (w := threeDocuments [(["http:"], .directory), (["http:", "t2.json"], .file bytes)])
    (asksToMerge_pair (x := "http://t2.json") (y := "c.json") "t3.json" (by decide)) (by simp) (by decide)
    (resolve_of_no_file "t3.json" rfl rfl rfl rfl) (Document.load_of_refused (by decide) haccepts rfl _)
  exact ⟨printed, printed', _, hrun, hnext, rfl, rfl⟩

/-- A document that gives the groups of a function as a set, and one without records. -/
def yamlDocuments : Workspace where
  entries := [([".config"], .directory), ([".config", "scardoc"], .directory), (["a.yaml"], .file (Utf8.encode
    "categories: [\x7bname: A, functions: [\x7bname: F, groups: !!set \x7bx, y\x7d\x7d]\x7d]\n".toList)),
    (["b.yaml"], .file (Utf8.encode "globals: []\n".toList))]

/-- The document whose function has two groups. -/
def grouped (first second : String) : Document :=
  ⟨[⟨"A", [{ name := "F", groups := [first, second] }]⟩], [], []⟩

/-- What is written for the set depends on the order of sets in the process. -/
theorem run_yamlDocuments (order : SetOrder) {d : Document} {cumulative : Bool} {out : String}
    (hload : (Document.load "a.yaml" { setOrder := order } yamlDocuments).1.toOption = some d)
    (hasks : AsksToMerge words ["a.yaml", "a.yaml"] cumulative out)
    (hnew : yamlDocuments.TakesNewFile (Path.ofString out)) :
    ∃ printed v, run { setOrder := order } words yamlDocuments = (.ok ⟨0, printed⟩, v) ∧
      v.read (Path.ofString out) = .ok (Utf8.encode (Document.fileText (some 2) (d.merge d)).toList) := by
  have hholds : yamlDocuments.HoldsDocument (Eq { setOrder := order }) "a.yaml" d := by
    refine ⟨by decide, ?_⟩
    rintro _ rfl
    cases h : (Document.load "a.yaml" { setOrder := order } yamlDocuments).1 with
    | ok e =>
      rw [h] at hload
      rw [Option.some.inj hload]
    | error t =>
      rw [h] at hload
      cases hload
  obtain ⟨printed, v, c, hrun, -, -, hstat⟩ := run_merge (by simp) rfl
    (.cons hholds (.cons hholds .nil)) hasks
    ⟨rfl, Nat.le_of_ble_eq_true rfl, _, _, resolve_of_no_file _ rfl rfl rfl rfl, rfl, hnew⟩
  rw [fold_pair] at hstat
  exact ⟨printed, v, hrun, Workspace.read_of_stat hstat⟩

/-- **Where a chain of merges writes something else than one cumulative merge**, or nothing at all: a
file in between whose name is a web address is not read back, a set comes in another order in every
process, and a text of a document in between may be one that cannot be written. -/
theorem merge_chain_ne_cumulative :
    (∃ printed u bytes printed' v printed'',
      run {} ["merge", "a.json", "b.json", "c.json", "--cumulative", "--out", "f.json"] (threeDocuments []) =
        (.ok ⟨0, printed⟩, u) ∧ u.read (Path.ofString "f.json") = .ok bytes ∧
      run {} ["merge", "a.json", "b.json", "--out", "http://t2.json"] (threeDocuments []) =
        (.ok ⟨0, printed'⟩, v) ∧
      run {} ["merge", "http://t2.json", "c.json", "--out", "t3.json"] v = (.ok ⟨5, printed''⟩, v) ∧
      (v.file? ["http:", "t2.json"]).isSome = true ∧ v.file? ["t3.json"] = none) ∧
    (∃ printed printed' u v bytes bytes',
      run {} ["merge", "a.yaml", "a.yaml", "--cumulative", "--out", "f.json"] yamlDocuments =
        (.ok ⟨0, printed⟩, u) ∧
      run { setOrder := ⟨List.reverse, List.reverse_perm⟩ } ["merge", "a.yaml", "a.yaml", "--out", "t2.json"]
        yamlDocuments = (.ok ⟨0, printed'⟩, v) ∧
      u.read (Path.ofString "f.json") = .ok bytes ∧ v.read (Path.ofString "t2.json") = .ok bytes' ∧
      bytes ≠ bytes') ∧
    let s : Surroundings := { fault := some { step := .write, error := .nullCharacter } }
    let e := run s ["merge", "b.yaml", "b.yaml", "--out", "t2.json"] yamlDocuments
    e.1.toOption.map (·.exitCode) = some 1 ∧ e.2.file? ["t2.json"] = none := by
  refine ⟨?_, ?_, by decide +kernel⟩
  · have hprocess : AnyProcess {} := trivial
    obtain ⟨printed, u, c, hrun, -, -, hstat⟩ := run_merge (by simp) hprocess
      (holdsDocument_threeDocuments AnyProcess) (asksToMerge_words (by simp) (by decide) true "f.json")
      canWrite_threeDocuments.1
    obtain ⟨printed', printed'', v, hserver⟩ := run_asks_server
    exact ⟨printed, u, _, printed', v, printed'', hrun, Workspace.read_of_stat hstat, hserver⟩
  · obtain ⟨printed, u, hu, hbytes⟩ := run_yamlDocuments {} (d := grouped "x" "y")
      (by decide +kernel) (asksToMerge_words (by simp) (by decide) true "f.json")
      (.of_locate (d := []) rfl rfl (by decide) (by decide +kernel) (by decide) rfl rfl)
    obtain ⟨printed', v, hv, hbytes'⟩ := run_yamlDocuments ⟨List.reverse, List.reverse_perm⟩
      (d := grouped "y" "x") (by decide +kernel) (asksToMerge_pair "t2.json" (by decide))
      (.of_locate (d := []) rfl rfl (by decide) (by decide +kernel) (by decide) rfl rfl)
    refine ⟨printed, printed', u, v, _, _, hu, hv, hbytes, hbytes', fun h => ?_⟩
    have hmerged := Document.encode_fileText_injective (some 2) h
    exact absurd hmerged (by decide +kernel)

end Program

end ScriptDoc
