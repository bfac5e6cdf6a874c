import ScriptDoc.Proofs.Source.Directory

/-!
# The ends of lines

A script file may end its lines in any of the three customary ways: the same lines are read from it.

* `LineEnd`, the three ways, and `LineEnd.terminated`, lines that are ended in one of them;
* `LineEnd.unifyNewlines_terminated`: reading a text file takes all three for line feeds;
* `LineEnd.splitLines_bytes`: the lines are found again;
* `SourceUnit.load_independent`.
-/

namespace ScriptDoc

open ScriptDoc.Text

/-- Characters of which none ends a line. -/
def Text.Unbroken (cs : List Char) : Prop := ∀ c ∈ cs, isLineBreak c = false

instance (cs : List Char) : Decidable (Unbroken cs) :=
  decidable_of_iff (cs.all (!isLineBreak ·) = true) (by simp [Unbroken])

/-- The customary ways to end a line. -/
inductive LineEnd where
  | lineFeed
  | pair
  | carriageReturn
  deriving DecidableEq, Repr

namespace LineEnd

variable {lines : List (List Char)} {cs : List Char}

/-- The characters at the end of a line. -/
def chars : LineEnd → List Char
  | .lineFeed => ['\n']
  | .pair => ['\r', '\n']
  | .carriageReturn => ['\r']

/-- Lines with an end after each of them. -/
def terminated (e : LineEnd) (lines : List (List Char)) : List Char := lines.flatMap (· ++ e.chars)

theorem terminated_cons (e : LineEnd) (line : List Char) (lines : List (List Char)) :
    e.terminated (line :: lines) = line ++ (e.chars ++ e.terminated lines) := by
  rw [terminated, List.flatMap_cons, List.append_assoc, terminated]

/-! ### Line feeds for all ends -/

theorem unifyNewlines_append (h : '\r' ∉ cs) (rest : List Char) :
    unifyNewlines (cs ++ rest) = cs ++ unifyNewlines rest := by
  induction cs with
  | nil => rfl
  | cons c cs ih =>
    rw [List.mem_cons, not_or] at h
    rw [List.cons_append, List.cons_append, unifyNewlines, ih h.2]
    · exact fun _ hc _ => h.1 hc.symm
    · exact fun hc => h.1 hc.symm

/-- A carriage return is one line feed, unless a line feed follows it. -/
theorem unifyNewlines_carriageReturn (h : cs.head? ≠ some '\n') :
    unifyNewlines ('\r' :: cs) = '\n' :: unifyNewlines cs := by
  cases cs with
  | nil => rfl
  | cons c cs =>
    rw [unifyNewlines]
    rintro _ ⟨⟩
    exact h rfl

/-- After a carriage return comes the next line or its carriage return, and never a line feed. -/
theorem head?_terminated_carriageReturn (h : ∀ line ∈ lines, Unbroken line) :
    (terminated .carriageReturn lines).head? ≠ some '\n' := by
  cases lines with
  | nil => simp [terminated]
  | cons line lines =>
    rw [terminated_cons]
    cases line with
    | nil => simp [chars]
    | cons c line =>
      have hc := h _ List.mem_cons_self c List.mem_cons_self
      rw [List.cons_append, List.head?_cons, Ne, Option.some_inj]
      rintro rfl
      exact absurd hc (by decide)

theorem carriageReturn_not_mem (h : Unbroken cs) : '\r' ∉ cs := fun hmem =>
  absurd (h _ hmem) (by decide)

/-- Reading a text file takes all ends of lines for line feeds. -/
theorem unifyNewlines_terminated (e : LineEnd) (h : ∀ line ∈ lines, Unbroken line) :
    unifyNewlines (e.terminated lines) = terminated .lineFeed lines := by
  induction lines with
  | nil => rfl
  | cons line lines ih =>
    have hlines : ∀ l ∈ lines, Unbroken l := fun l hl => h l (List.mem_cons_of_mem _ hl)
    have hend : unifyNewlines (e.chars ++ e.terminated lines) =
        '\n' :: unifyNewlines (e.terminated lines) := by
      cases e with
      | lineFeed => rfl
      | pair => rfl
      | carriageReturn => exact unifyNewlines_carriageReturn (head?_terminated_carriageReturn hlines)
    rw [terminated_cons, terminated_cons,
      unifyNewlines_append (carriageReturn_not_mem (h line List.mem_cons_self)), hend, ih hlines]
    rfl

/-! ### Lines -/

theorem splitLinesAfter_append (h : Unbroken cs) (line rest : List Char) :
    splitLinesAfter line (cs ++ rest) = splitLinesAfter (cs.reverse ++ line) rest := by
  induction cs generalizing line with
  | nil => rfl
  | cons c cs ih =>
    have hc : isLineBreak c = false := h c List.mem_cons_self
    have hne : c ≠ '\r' := by
      rintro rfl
      exact absurd hc (by decide)
    rw [List.cons_append, splitLinesAfter, hc, if_neg (by simp),
      ih (fun d hd => h d (List.mem_cons_of_mem _ hd)), List.reverse_cons, List.append_assoc]
    · rfl
    · exact fun _ h' _ => hne h'

theorem splitLinesAfter_terminated (h : ∀ line ∈ lines, Unbroken line) :
    splitLinesAfter [] (terminated .lineFeed lines) = lines := by
  induction lines with
  | nil => rfl
  | cons line lines ih =>
    have hlines : ∀ l ∈ lines, Unbroken l := fun l hl => h l (List.mem_cons_of_mem _ hl)
    rw [terminated_cons, splitLinesAfter_append (h line List.mem_cons_self), chars, List.singleton_append,
      splitLinesAfter, if_pos (by decide), ih hlines, List.append_nil, List.reverse_reverse]
    rintro _ ⟨⟩

/-- The bytes of a file with these lines. -/
def bytes (e : LineEnd) (lines : List String) : List UInt8 :=
  Utf8.encode (e.terminated (lines.map String.toList))

/-- **Lines are found again**, whichever way they are ended. -/
theorem splitLines_bytes (e : LineEnd) {lines : List String} (h : ∀ line ∈ lines, Unbroken line.toList) :
    splitLines (Workspace.lossyText (e.bytes lines)) = lines := by
  have hlines : ∀ line ∈ lines.map String.toList, Unbroken line := by
    simpa using h
  rw [splitLines, Workspace.lossyText, String.toList_ofList, bytes, Utf8.decodeLossy_encode,
    unifyNewlines_terminated e hlines, splitLinesAfter_terminated hlines, List.map_map]
  exact (List.map_congr_left fun line _ => String.ofList_toList).trans (List.map_id lines)

end LineEnd

namespace SourceUnit

theorem load_bytes {e : LineEnd} {lines : List String} {path : String} {w : Workspace}
    (h : ∀ line ∈ lines, Unbroken line.toList)
    (hfile : w.stat (Path.ofString path) = .ok (.file (e.bytes lines))) (s : Surroundings) :
    load path s w = (.ok lines, w) := by
  rw [load, Generation.readLines_eq ⟨_, hfile⟩, Generation.linesAt_of_stat hfile, e.splitLines_bytes h]

/-- **The way in which lines end does not matter.** From a file whose lines are all ended in one way those
lines are read, and so a unit is the same from files with other ends, wherever they are. -/
theorem load_independent {lines : List String} (h : ∀ line ∈ lines, Unbroken line.toList) :
    (∀ (e : LineEnd) (path : String) (s : Surroundings) (w : Workspace),
      w.stat (Path.ofString path) = .ok (.file (e.bytes lines)) → load path s w = (.ok lines, w)) ∧
    ∀ (e e' : LineEnd) (path path' : String) (s s' : Surroundings) (w w' : Workspace),
      w.stat (Path.ofString path) = .ok (.file (e.bytes lines)) →
      w'.stat (Path.ofString path') = .ok (.file (e'.bytes lines)) →
      ∃ read read', load path s w = (.ok read, w) ∧ load path' s' w' = (.ok read', w') ∧
        ∀ marker strict identifier,
          parse marker strict identifier read = parse marker strict identifier read' := by
  refine ⟨fun e path s w hfile => load_bytes h hfile s, ?_⟩
  intro e e' path path' s s' w w' hfile hfile'
  exact ⟨lines, lines, load_bytes h hfile s, load_bytes h hfile' s', fun _ _ _ => rfl⟩

/-- A line of two bytes to a character, empty lines in a row, and a carriage return after each of them. -/
theorem load_independent_carriageReturn :
    load "run.scar" {} { entries := [(["run.scar"],
        .file (LineEnd.carriageReturn.bytes ["--? é", "", "", "function Run (x)"]))] } =
      (.ok ["--? é", "", "", "function Run (x)"], { entries := [(["run.scar"],
        .file (LineEnd.carriageReturn.bytes ["--? é", "", "", "function Run (x)"]))] }) := by
  have h : ∀ line ∈ ["--? é", "", "", "function Run (x)"], Unbroken line.toList := by
    simp only [List.forall_mem_cons]
    exact ⟨by decide, nofun, nofun, by decide, nofun⟩
  exact (load_independent h).1 .carriageReturn _ {} _ rfl

end SourceUnit

end ScriptDoc
