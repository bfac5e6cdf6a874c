import ScriptDoc.Document.Storage
import ScriptDoc.Proofs.Work

/-!
# How the loading of a document may fail

A document that cannot be loaded is a failure of its own kind, whatever is wrong with it, but for four
sorts of accident: an address that cannot be asked, an answer whose bytes are no text, a name that is too
long, and a text that makes its reader stumble instead of refusing it.

* `Source.Holds`, the text that is found at a source, with what is known of its format;
* `Digestible`, that no reader of a text has an accident;
* `Document.looks_load`: loading changes nothing;
* `Document.load_failsOnlyAs_iff`.
-/

namespace ScriptDoc

open ScriptDoc.Text

/-! ### Texts -/

/-- Whether a text is read as YAML. -/
def ReadAsYaml (limits : NestingLimits) (format : Format) (text : String) : Prop :=
  format = .yaml ∨
    format = .unknown ∧ ∃ e, Json.read text.toList limits = .error e ∧ e.isMalformed = true

/-- A text that its readers take or refuse. As JSON it has no integer that is too long and no nesting
that is too deep, and as YAML no scalar of which no value is made. -/
structure Digestible (limits : NestingLimits) (format : Format) (text : String) : Prop where
  json : format ≠ .yaml → ∀ e, Json.read text.toList limits = .error e → e.isMalformed = true
  yaml : ReadAsYaml limits format text →
    ∀ e, Yaml.read text.toList limits = .error e → ∃ flaw, e = .malformed flaw

variable {k : FailureKind} {limits : NestingLimits} {format : Format} {text : String}

theorem failsOnlyAs_map {α β : Type} {r : Except Trouble α} {g : α → β} :
    FailsOnlyAs k (r.map g) ↔ FailsOnlyAs k r := by
  cases r with
  | ok a => simp [Except.map]
  | error t => cases t <;> simp [Except.map]

theorem failsOnlyAs_requireObject (v : Value) : FailsOnlyAs .documentLoad (requireObject v) := by
  cases v <;> simp [requireObject, Failure.kind]

theorem failsOnlyAs_parseYaml (json : Option Json.Error) :
    FailsOnlyAs .documentLoad (parseYaml json text limits) ↔
      ∀ e, Yaml.read text.toList limits = .error e → ∃ flaw, e = .malformed flaw := by
  unfold parseYaml
  cases hy : Yaml.read text.toList limits with
  | ok m => simp [failsOnlyAs_map, failsOnlyAs_requireObject]
  | error e => cases e <;> simp [yamlTrouble, Failure.kind]

theorem failsOnlyAs_jsonTrouble {α : Type} (e : Json.Error) :
    FailsOnlyAs .documentLoad (.error (jsonTrouble e) : Except Trouble α) ↔
      e.isMalformed = true := by
  cases e <;> simp [jsonTrouble, Json.Error.isMalformed, Failure.kind]

theorem failsOnlyAs_objectOf :
    FailsOnlyAs .documentLoad (objectOf limits format text) ↔ Digestible limits format text := by
  rw [objectOf, failsOnlyAs_map, parseContent]
  by_cases hf : format = .yaml
  · subst hf
    rw [if_pos (by rfl), failsOnlyAs_parseYaml]
    exact ⟨fun h => ⟨fun hne => absurd rfl hne, fun _ => h⟩, fun h => h.yaml (.inl rfl)⟩
  · rw [if_neg (by simpa using hf)]
    cases hj : Json.read text.toList limits with
    | ok v =>
      have hno : ¬ ReadAsYaml limits format text := by
        rintro (h | ⟨-, e, he, -⟩)
        · exact hf h
        · rw [hj] at he
          cases he
      refine iff_of_true (failsOnlyAs_map.2 (failsOnlyAs_requireObject v)) ⟨fun _ e he => ?_, ?_⟩
      · rw [hj] at he
        cases he
      · exact fun h => absurd h hno
    | error e =>
      dsimp only
      split
      · -- malformed JSON of unknown format is tried as YAML
        rename_i hu
        rw [Bool.and_eq_true, beq_iff_eq] at hu
        rw [failsOnlyAs_parseYaml]
        refine ⟨fun h => ⟨fun _ e' he' => ?_, fun _ => h⟩, fun h => h.yaml (.inr ⟨hu.1, e, hj, hu.2⟩)⟩
        rw [hj] at he'
        cases he'
        exact hu.2
      · rename_i hu
        have hno : ReadAsYaml limits format text → e.isMalformed = true → False := by
          rintro (h | ⟨h, -⟩) he
          · exact hf h
          · exact hu (by rw [h, he]; rfl)
        rw [failsOnlyAs_jsonTrouble]
        refine ⟨fun he => ⟨fun _ e' he' => ?_, fun h => (hno h he).elim⟩, fun h => h.json hf e hj⟩
        rw [hj] at he'
        cases he'
        exact he

/-! ### Sources -/

/-- The text that is found at a source, with what is known of its format. -/
inductive Source.Holds (s : Surroundings) (w : Workspace) : Source → Format → String → Prop
  | standardInput (h : allBlank s.standardInput = false) :
    Holds s w .standardInput .unknown s.standardInput
  | server {url content : String} {reply : HttpReply} (h : s.replies.lookup url = some reply)
      (hlow : 200 ≤ reply.status) (hhigh : reply.status < 300)
      (htext : s.client.text? reply = some content) :
    Holds s w (.server url) (MediaType.format (reply.contentType.getD "")) content
  | file {path content : String} {bytes : List UInt8}
      (h : w.stat (Path.ofString path) = .ok (.file bytes))
      (htext : Workspace.strictText bytes = .ok content) (hblank : allBlank content = false) :
    Holds s w (.file path) (.ofPath (Path.ofString path)) content

/-- A source about which nothing is out of the ordinary: an address can be asked, and the answer of
success, if there is one, is a text; a name is not too long. -/
def Source.Reachable (s : Surroundings) (w : Workspace) : Source → Prop
  | .standardInput => True
  | .server url =>
    s.client.accepts url = true ∧ ∀ reply, s.replies.lookup url = some reply →
      200 ≤ reply.status → reply.status < 300 → ∃ content, s.client.text? reply = some content
  | .file path => w.stat (Path.ofString path) ≠ .error .nameTooLong

theorem Source.Holds.of_standardInput {s : Surroundings} {w : Workspace}
    (h : Source.Holds s w .standardInput format text) :
    format = .unknown ∧ text = s.standardInput ∧ allBlank s.standardInput = false := by
  cases h with
  | standardInput hblank => exact ⟨rfl, rfl, hblank⟩

theorem Source.Holds.of_server {s : Surroundings} {w : Workspace} {url : String}
    (h : Source.Holds s w (.server url) format text) :
    ∃ reply, s.replies.lookup url = some reply ∧ (200 ≤ reply.status ∧ reply.status < 300) ∧
      format = MediaType.format (reply.contentType.getD "") ∧ s.client.text? reply = some text := by
  cases h with
  | server hreply hlow hhigh htext => exact ⟨_, hreply, ⟨hlow, hhigh⟩, rfl, htext⟩

theorem Source.Holds.of_file {s : Surroundings} {w : Workspace} {path : String}
    (h : Source.Holds s w (.file path) format text) :
    ∃ bytes, w.stat (Path.ofString path) = .ok (.file bytes) ∧
      Workspace.strictText bytes = .ok text ∧ allBlank text = false ∧
      format = .ofPath (Path.ofString path) := by
  cases h with
  | file hstat htext hblank => exact ⟨_, hstat, htext, hblank, rfl⟩

namespace Document

variable {s : Surroundings} {w : Workspace}

theorem failsOnlyAs_readStandardInput :
    FailsOnlyAs .documentLoad (readStandardInput s w).1 ↔
      ∀ format text, Source.Holds s w .standardInput format text →
        Digestible s.limits format text := by
  unfold readStandardInput
  rw [Work.bind_of_ok (rfl : Work.surroundings s w = (.ok s, w))]
  split
  · rename_i hblank
    refine iff_of_true (by simp [Work.failsOnlyAs_fail, Failure.kind]) fun _ _ h => ?_
    rw [h.of_standardInput.2.2] at hblank
    cases hblank
  · rename_i hblank
    rw [Work.ofExcept, failsOnlyAs_objectOf]
    refine ⟨fun hd _ _ h => ?_, fun h => h _ _ (.standardInput (by simpa using hblank))⟩
    obtain ⟨rfl, rfl, -⟩ := h.of_standardInput
    exact hd

theorem failsOnlyAs_fetch (url : String) :
    FailsOnlyAs .documentLoad (fetch url s w).1 ↔
      Source.Reachable s w (.server url) ∧
        ∀ format text, Source.Holds s w (.server url) format text →
          Digestible s.limits format text := by
  unfold fetch
  rw [Work.bind_of_ok (rfl : Work.surroundings s w = (.ok s, w))]
  dsimp only [Source.Reachable]
  split
  · rename_i hbad
    refine iff_of_false (fun h => ?_) fun h => ?_
    · exact Work.not_failsOnlyAs_crash _ (Work.failsOnlyAs_bind.1 h).1
    · rw [h.1.1] at hbad
      cases hbad
  · rename_i hgood
    rw [and_assoc, and_iff_right (by simpa using hgood)]
    cases hreply : s.replies.lookup url with
    | none =>
      refine iff_of_true (by simp [Work.failsOnlyAs_fail, Failure.kind]) ⟨by rintro _ ⟨⟩, fun _ _ h => ?_⟩
      obtain ⟨reply, hr, -⟩ := h.of_server
      rw [hreply] at hr
      cases hr
    | some reply =>
      have honly {format : Format} {text : String}
          (h : Source.Holds s w (.server url) format text) :
          (200 ≤ reply.status ∧ reply.status < 300) ∧
            format = MediaType.format (reply.contentType.getD "") ∧
              s.client.text? reply = some text := by
        obtain ⟨r, hr, h⟩ := h.of_server
        rw [hreply] at hr
        cases hr
        exact h
      dsimp only
      split
      · rename_i hstatus
        rw [Bool.and_eq_true, decide_eq_true_eq, decide_eq_true_eq] at hstatus
        cases htext : s.client.text? reply with
        | none =>
          refine iff_of_false (Work.not_failsOnlyAs_crash _) fun h => ?_
          obtain ⟨content, hcontent⟩ := h.1 reply rfl hstatus.1 hstatus.2
          rw [htext] at hcontent
          cases hcontent
        | some content =>
          rw [and_iff_right (by rintro _ ⟨⟩ - -; exact ⟨content, htext⟩)]
          dsimp only
          rw [Work.ofExcept, failsOnlyAs_objectOf]
          refine ⟨fun hd _ _ h => ?_, fun h => h _ _ (.server hreply hstatus.1 hstatus.2 htext)⟩
          obtain ⟨-, rfl, ht⟩ := honly h
          rw [htext] at ht
          cases ht
          exact hd
      · rename_i hstatus
        have hno : ¬ (200 ≤ reply.status ∧ reply.status < 300) := by simpa using hstatus
        refine iff_of_true (by simp [Work.failsOnlyAs_fail, Failure.kind]) ⟨?_, fun _ _ h => ?_⟩
        · rintro _ ⟨⟩ hlow hhigh
          exact absurd ⟨hlow, hhigh⟩ hno
        · exact absurd (honly h).1 hno

theorem failsOnlyAs_readFile (path : String) :
    FailsOnlyAs .documentLoad (readFile path s w).1 ↔
      Source.Reachable s w (.file path) ∧
        ∀ format text, Source.Holds s w (.file path) format text →
          Digestible s.limits format text := by
  unfold readFile
  dsimp only [Source.Reachable]
  obtain ⟨hlong, hfile⟩ | ⟨bytes, hstat⟩ | ⟨hshort, hnone, hfile⟩ :=
    w.isFile_cases (Path.ofString path)
  · refine iff_of_false (fun h => ?_) fun h => h.1 hlong
    obtain ⟨b, hb⟩ := Work.failsOnlyAs_inspect.1 (Work.failsOnlyAs_bind.1 h).1
    rw [hfile] at hb
    cases hb
  · rw [Work.bind_of_ok (Work.inspect_of_ok (Workspace.isFile_of_stat hstat)), if_pos rfl,
      Work.bind_of_ok (Work.inspect_of_ok (Workspace.read_of_stat hstat)),
      and_iff_right (by rw [hstat]; simp)]
    have honly {format : Format} {text : String}
        (h : Source.Holds s w (.file path) format text) :
        Workspace.strictText bytes = .ok text ∧ allBlank text = false ∧
          format = .ofPath (Path.ofString path) := by
      obtain ⟨b, hb, h⟩ := h.of_file
      rw [hstat] at hb
      cases hb
      exact h
    cases htext : Workspace.strictText bytes with
    | error e =>
      refine iff_of_true (by simp [Work.failsOnlyAs_fail, Failure.kind]) fun _ _ h => ?_
      rw [htext] at honly
      cases (honly h).1
    | ok content =>
      rw [htext] at honly
      dsimp only
      split
      · rename_i hblank
        refine iff_of_true (by simp [Work.failsOnlyAs_fail, Failure.kind]) fun _ _ h => ?_
        obtain ⟨⟨⟩, hb, -⟩ := honly h
        rw [hblank] at hb
        cases hb
      · rename_i hblank
        rw [Work.bind_of_ok (rfl : Work.surroundings s w = (.ok s, w)), Work.ofExcept,
          failsOnlyAs_objectOf]
        refine ⟨fun hd _ _ h => ?_, fun h => h _ _ (.file hstat htext (by simpa using hblank))⟩
        obtain ⟨⟨⟩, -, hformat⟩ := honly h
        rw [hformat]
        exact hd
  · rw [Work.bind_of_ok (Work.inspect_of_ok hfile), if_neg (by simp)]
    refine iff_of_true (by simp [Work.failsOnlyAs_fail, Failure.kind]) ⟨hshort, fun _ _ h => ?_⟩
    obtain ⟨bytes, hstat, -⟩ := h.of_file
    exact absurd hstat (hnone bytes)

/-! ### What loading does to files -/

theorem looks_ofExcept {α : Type} (r : Except Trouble α) : Work.Looks (Work.ofExcept r) :=
  fun _ _ => rfl

theorem looks_readStandardInput : Work.Looks readStandardInput := by
  refine Work.looks_surroundings.bind fun s => ?_
  split
  · exact Work.looks_fail _
  · exact looks_ofExcept _

theorem looks_fetch (url : String) : Work.Looks (fetch url) := by
  refine Work.looks_surroundings.bind fun s => ?_
  dsimp only
  split
  · -- the accident ends the work before anything is asked
    exact fun _ _ => rfl
  · cases s.replies.lookup url with
    | none => exact Work.looks_fail _
    | some reply =>
      dsimp only
      split
      · cases s.client.text? reply with
        | none => exact Work.looks_crash _
        | some content => exact looks_ofExcept _
      · exact Work.looks_fail _

theorem looks_readFile (path : String) : Work.Looks (readFile path) := by
  refine (Work.looks_inspect _ _).bind fun isFile => ?_
  split
  · refine (Work.looks_inspect _ _).bind fun bytes => ?_
    split
    · exact Work.looks_fail _
    · split
      · exact Work.looks_fail _
      · exact Work.looks_surroundings.bind fun s => looks_ofExcept _
  · exact Work.looks_fail _

/-- Loading a document changes nothing. -/
theorem looks_load (source : String) : Work.Looks (load source) := by
  have hsource : Work.Looks (readSource source) := by
    unfold readSource
    split
    · exact looks_readStandardInput
    · exact looks_fetch _
    · exact looks_readFile _
  refine hsource.bind fun v => Work.looks_surroundings.bind fun s => ?_
  split
  · exact Work.looks_pure _
  · exact Work.looks_fail _

/-- A server that does not answer. -/
theorem load_of_refused {source url : String} (hserver : Source.ofString source = .server url)
    (haccepts : s.client.accepts url = true) (hnone : s.replies.lookup url = none) (w : Workspace) :
    load source s w = (.error (.failure (.fetchFailed url "refused")), w) := by
  have hfetch : fetch url s w = (.error (.failure (.fetchFailed url "refused")), w) := by
    unfold fetch
    rw [Work.bind_of_ok (rfl : Work.surroundings s w = (.ok s, w)), if_neg (by simp [haccepts])]
    dsimp only
    rw [hnone]
    rfl
  unfold load readSource
  rw [hserver]
  exact Work.bind_of_error hfetch _

/-! ### All sources -/

theorem failsOnlyAs_check (source : String) (v : Value) :
    FailsOnlyAs .documentLoad
      ((do
        match check (v.arranged (← Work.surroundings).setOrder) with
        | .good d => return d
        | .bad ps => Work.fail (.invalidDocument source modelName ps) : Work Document) s w).1 := by
  rw [Work.bind_of_ok (rfl : Work.surroundings s w = (.ok s, w))]
  cases check (v.arranged s.setOrder) with
  | good d => exact Work.failsOnlyAs_pure d
  | bad ps => exact (Work.failsOnlyAs_fail _).2 rfl

/-- **When loading a document fails with nothing but a failure to load it.** -/
theorem load_failsOnlyAs_iff (source : String) (s : Surroundings) (w : Workspace) :
    FailsOnlyAs .documentLoad (load source s w).1 ↔
      (Source.ofString source).Reachable s w ∧
        ∀ format text, (Source.ofString source).Holds s w format text →
          Digestible s.limits format text := by
  have hload : FailsOnlyAs .documentLoad (load source s w).1 ↔
      FailsOnlyAs .documentLoad (readSource source s w).1 :=
    Work.failsOnlyAs_bind.trans (and_iff_left fun v _ _ => failsOnlyAs_check source v)
  rw [hload, readSource]
  cases Source.ofString source with
  | standardInput => exact failsOnlyAs_readStandardInput.trans (and_iff_right trivial).symm
  | server url => exact failsOnlyAs_fetch url
  | file path => exact failsOnlyAs_readFile path

/-- A day that no month has is an accident: the text is YAML, but no date is made of the scalar. -/
theorem load_impossible_date :
    ¬ FailsOnlyAs .documentLoad
      (load "notes.yaml" {} { entries :=
        [(["notes.yaml"], .file (Utf8.encode "released: 2024-02-30\n".toList))] }).1 := by
  decide +kernel

end Document

end ScriptDoc
