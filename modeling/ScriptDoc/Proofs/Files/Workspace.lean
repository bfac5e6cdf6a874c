import ScriptDoc.Files.Workspace
import ScriptDoc.Proofs.Text.Utf8

/-!
# What stands where in a workspace

* `node?_put_self`, `node?_put_of_ne`: a change is seen at its own location and nowhere else; `put_put`,
  `remove_put_self`: and it hides the changes there before it;
* `locate_of_keepsDirectories`: a path leads to the same location as long as directories stay
  directories;
* `eq_append_of_locate`: where a path below a directory leads;
* `isFile_of_stat`, `read_of_stat`: a path that leads to a file;
* `strictText_encode`: the bytes of a text are read as that text;
* `isFile_cases`: what there is to know of a path before a file is read.
-/

namespace ScriptDoc.Workspace

variable {w v : Workspace} {l m : Location}

/-! ### Changes of one location -/

theorem lookup_filter_of_ne (entries : List (Location × Node)) (h : m ≠ l) :
    (entries.filter fun e => e.1 != l).lookup m = entries.lookup m := by
  induction entries with
  | nil => rfl
  | cons e entries ih =>
    obtain ⟨k, n⟩ := e
    by_cases hk : k = l
    · subst hk
      have hb : (m == k) = false := beq_eq_false_iff_ne.2 h
      rw [List.filter_cons_of_neg (by simp), ih, List.lookup_cons, hb]
    · rw [List.filter_cons_of_pos (by simp [hk]), List.lookup_cons, List.lookup_cons, ih]

theorem lookup_filter_self (entries : List (Location × Node)) (l : Location) :
    (entries.filter fun e => e.1 != l).lookup l = none := by
  rw [List.lookup_eq_none_iff]
  intro e he
  obtain ⟨-, hne⟩ := List.mem_filter.1 he
  rw [bne_comm]
  exact hne

theorem node?_put_self (w : Workspace) (n : Node) (h : l ≠ []) : (w.put l n).node? l = some n := by
  have hl : l.isEmpty = false := by simpa using h
  simp [node?, put, hl, List.lookup_append, lookup_filter_self]

theorem node?_put_of_ne (w : Workspace) (n : Node) (h : m ≠ l) :
    (w.put l n).node? m = w.node? m := by
  have hb : (m == l) = false := beq_eq_false_iff_ne.2 h
  simp [node?, put, List.lookup_append, lookup_filter_of_ne _ h, List.lookup_cons, hb]

theorem put_put (w : Workspace) (l : Location) (n n' : Node) : (w.put l n).put l n' = w.put l n' := by
  simp [put, List.filter_append, List.filter_filter]

theorem remove_put_self (w : Workspace) (l : Location) (n : Node) :
    (w.put l n).remove l = w.remove l := by
  simp [put, remove, List.filter_append, List.filter_filter]

/-! ### Following paths -/

/-- Every directory of one workspace is a directory of another. -/
def KeepsDirectories (w v : Workspace) : Prop :=
  ∀ l, w.node? l = some .directory → v.node? l = some .directory

theorem follow_of_keepsDirectories (h : w.KeepsDirectories v) {parts : List String}
    (hf : w.follow l parts = .ok m) : v.follow l parts = .ok m := by
  induction parts generalizing l with
  | nil => exact hf
  | cons part rest ih =>
    rw [follow] at hf ⊢
    -- Only a directory can be followed further, and it is one in both workspaces.
    cases hn : w.node? l with
    | none => simp [hn] at hf
    | some n =>
      cases n with
      | file b => simp [hn] at hf
      | directory =>
        rw [h l hn]
        simp only [hn] at hf ⊢
        split at hf
        · rename_i hp
          rw [if_pos hp]
          exact ih hf
        · rename_i hp
          rw [if_neg hp]
          split at hf
          · cases hf
          · rename_i hb
            rw [if_neg hb]
            exact ih hf

theorem locate_of_keepsDirectories (h : w.KeepsDirectories v) (hh : v.here = w.here) {p : Path}
    (hl : w.locate p = .ok l) : v.locate p = .ok l := by
  unfold locate at hl ⊢
  split at hl
  · cases hl
  · split at hl
    · cases hl
    · rename_i h₁ h₂
      rw [if_neg h₁, if_neg h₂, hh]
      exact follow_of_keepsDirectories h hl

theorem follow_append (w : Workspace) (l : Location) (parts more : List String) :
    w.follow l (parts ++ more) = (w.follow l parts).bind (w.follow · more) := by
  induction parts generalizing l with
  | nil => rfl
  | cons part parts ih =>
    rw [List.cons_append, follow, follow]
    cases w.node? l with
    | none => rfl
    | some n =>
      cases n with
      | file bytes => rfl
      | directory =>
        dsimp only
        split
        · exact ih _
        · split
          · rfl
          · exact ih _

theorem stat_of_locate {p : Path} {n : Node} (hl : w.locate p = .ok l) (hn : w.node? l = some n) :
    w.stat p = .ok n := by
  simp only [stat, hl, bind, Except.bind, hn]

theorem isFile_of_stat {p : Path} {bytes : List UInt8} (h : w.stat p = .ok (.file bytes)) :
    w.isFile p = .ok true := by
  rw [isFile, is, h]

theorem read_of_stat {p : Path} {bytes : List UInt8} (h : w.stat p = .ok (.file bytes)) :
    w.read p = .ok bytes := by
  rw [read, h]
  rfl

/-- The bytes of a text without carriage returns are read as that text. -/
theorem strictText_encode {t : String} (h : '\r' ∉ t.toList) :
    strictText (Text.Utf8.encode t.toList) = .ok t := by
  rw [strictText, Text.Utf8.decode_encode, Except.map, Text.unifyNewlines_eq_self h,
    String.ofList_toList]

/-- What there is to know of a path before a file is read: its name is too long, or it leads to a file,
or it leads to none. -/
theorem isFile_cases (w : Workspace) (p : Path) :
    (w.stat p = .error .nameTooLong ∧ w.isFile p = .error .nameTooLong) ∨
      (∃ bytes, w.stat p = .ok (.file bytes)) ∨
      w.stat p ≠ .error .nameTooLong ∧ (∀ bytes, w.stat p ≠ .ok (.file bytes)) ∧
        w.isFile p = .ok false := by
  cases h : w.stat p with
  | ok n =>
    cases n with
    | file bytes => exact .inr (.inl ⟨bytes, rfl⟩)
    | directory => exact .inr (.inr ⟨by simp, by simp, by rw [isFile, is, h]⟩)
  | error e =>
    by_cases he : e = .nameTooLong
    · subst he
      exact .inl ⟨rfl, by rw [isFile, is, h]⟩
    · refine .inr (.inr ⟨by simpa using he, by simp, ?_⟩)
      rw [isFile, is, h]
      cases e <;> first | rfl | exact absurd rfl he

end ScriptDoc.Workspace
