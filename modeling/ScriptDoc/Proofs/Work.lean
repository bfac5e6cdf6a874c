import ScriptDoc.Proofs.Files.Frame
import ScriptDoc.Work

/-!
# Pieces of work, one after another

* `Work.bind_of_ok`: work whose first piece succeeds goes on with its result;
* `Work.ok_of_bind`: work that succeeds has a first piece that does;
* `Work.inspect_of_ok`, `Work.change_ok`: looking at the workspace and changing it;
* `Work.Looks`, `Work.KeepsFiles`: work that leaves the workspace as it is, and work that makes
  directories at most;
* `FailsOnlyAs`, that a result is a value or a failure of one kind, and `Work.failsOnlyAs_bind`: when
  this is so for two pieces of work.
-/

namespace ScriptDoc

namespace Work

variable {α β : Type} {s : Surroundings} {w v : Workspace}

theorem bind_of_ok {m : Work α} {a : α} (h : m s w = (.ok a, v)) (f : α → Work β) :
    (m >>= f) s w = f a s v := by
  simp only [bind, h]

theorem bind_of_error {m : Work α} {t : Trouble} (h : m s w = (.error t, v)) (f : α → Work β) :
    (m >>= f) s w = (.error t, v) := by
  simp only [bind, h]

theorem ok_of_bind {m : Work α} {f : α → Work β} {b : β} (h : (m >>= f) s w = (.ok b, v)) :
    ∃ a u, m s w = (.ok a, u) ∧ f a s u = (.ok b, v) := by
  simp only [bind] at h
  split at h
  · rename_i a u hm
    exact ⟨a, u, hm, h⟩
  · cases h

theorem bind_pure (m : Work α) : (m >>= pure) = m := by
  funext s w
  rcases h : m s w with ⟨_ | a, v⟩
  · rw [bind_of_error h]
  · rw [bind_of_ok h]
    rfl

theorem inspect_of_ok {look : Workspace → Path → Except FileError α} {p : Path} {a : α}
    (h : look w p = .ok a) : inspect look p s w = (.ok a, w) := by
  rw [inspect, h]

theorem inspect_of_error {look : Workspace → Path → Except FileError α} {p : Path} {e : FileError}
    (h : look w p = .error e) : inspect look p s w = (.error (.accident (.files ⟨e, [p]⟩)), w) := by
  rw [inspect, h]

theorem of_inspect_eq_ok {look : Workspace → Path → Except FileError α} {p : Path} {a : α}
    (h : inspect look p s w = (.ok a, v)) : look w p = .ok a := by
  unfold inspect at h
  split at h
  · rename_i b hb
    cases h
    exact hb
  · cases h

theorem change_ok {act : Workspace → Workspace × Option FileFailure} {u : Unit}
    (h : change act s w = (.ok u, v)) : act w = (v, none) := by
  unfold change at h
  split at h
  · rename_i v' hv
    cases h
    exact hv
  · cases h

/-- Work that leaves the workspace as it is. -/
def Looks (m : Work α) : Prop := ∀ s w, (m s w).2 = w

/-- Work that makes directories at most. -/
def KeepsFiles (m : Work α) : Prop := ∀ s (w : Workspace), w.GainsDirectories (m s w).2

theorem Looks.keepsFiles {m : Work α} (h : Looks m) : KeepsFiles m := by
  intro s w
  rw [h s w]
  exact .refl w

theorem Looks.eq {m : Work α} (h : Looks m) {r : Except Trouble α} (hm : m s w = (r, v)) : v = w := by
  have hw := h s w
  rwa [hm] at hw

theorem looks_pure (a : α) : Looks (pure a : Work α) := fun _ _ => rfl

theorem looks_fail (f : Failure) : Looks (fail f : Work α) := fun _ _ => rfl

theorem looks_crash (a : Accident) : Looks (crash a : Work α) := fun _ _ => rfl

theorem looks_surroundings : Looks surroundings := fun _ _ => rfl

theorem looks_absolute (p : Path) : Looks (absolute p) := fun _ _ => rfl

theorem looks_inspect (look : Workspace → Path → Except FileError α) (p : Path) :
    Looks (inspect look p) := by
  intro s w
  unfold inspect
  split <;> rfl

theorem Looks.bind {m : Work α} {f : α → Work β} (hm : Looks m) (hf : ∀ a, Looks (f a)) :
    Looks (m >>= f) := by
  intro s w
  rcases hr : m s w with ⟨r, v⟩
  obtain rfl := hm.eq hr
  cases r with
  | ok a => rw [bind_of_ok hr, hf a s v]
  | error t => rw [bind_of_error hr]

theorem Looks.ok_of_bind {m : Work α} {f : α → Work β} {b : β} (hm : Looks m)
    (h : (m >>= f) s w = (.ok b, v)) : ∃ a, m s w = (.ok a, w) ∧ f a s w = (.ok b, v) := by
  obtain ⟨a, u, ha, hb⟩ := Work.ok_of_bind h
  obtain rfl := hm.eq ha
  exact ⟨a, ha, hb⟩

theorem KeepsFiles.bind {m : Work α} {f : α → Work β} (hm : KeepsFiles m)
    (hf : ∀ a, KeepsFiles (f a)) : KeepsFiles (m >>= f) := by
  intro s w
  have hw := hm s w
  rcases hr : m s w with ⟨r, v⟩
  rw [hr] at hw
  cases r with
  | ok a =>
    rw [bind_of_ok hr]
    exact hw.trans (hf a s v)
  | error t =>
    rw [bind_of_error hr]
    exact hw

theorem snd_change (act : Workspace → Workspace × Option FileFailure) (s : Surroundings)
    (w : Workspace) : (change act s w).2 = (act w).1 := by
  rcases h : act w with ⟨v, _ | f⟩ <;> simp [change, h]

theorem keepsFiles_makeDirectories (p : Path) : KeepsFiles (change (·.makeDirectories p)) := by
  intro s w
  rw [snd_change]
  exact w.makeDirectories_gains p

end Work

/-! ### How work may fail -/

/-- A value, or a failure of one kind. -/
def FailsOnlyAs {α : Type} (k : FailureKind) (r : Except Trouble α) : Prop :=
  ∀ t, r = .error t → ∃ f, t = .failure f ∧ f.kind = k

section FailsOnlyAs

variable {α β : Type} {k : FailureKind} {s : Surroundings} {w : Workspace}

@[simp] theorem failsOnlyAs_ok (a : α) : FailsOnlyAs k (.ok a) := by
  rintro t ⟨⟩

@[simp] theorem failsOnlyAs_failure (f : Failure) :
    FailsOnlyAs k (.error (.failure f) : Except Trouble α) ↔ f.kind = k := by
  constructor
  · intro h
    obtain ⟨g, hg, hk⟩ := h _ rfl
    cases hg
    exact hk
  · rintro hk t ⟨⟩
    exact ⟨f, rfl, hk⟩

@[simp] theorem failsOnlyAs_accident (a : Accident) :
    ¬ FailsOnlyAs k (.error (.accident a) : Except Trouble α) := by
  intro h
  obtain ⟨f, hf, -⟩ := h _ rfl
  cases hf

instance decidableFailsOnlyAs (k : FailureKind) :
    (r : Except Trouble α) → Decidable (FailsOnlyAs k r)
  | .ok a => .isTrue (failsOnlyAs_ok a)
  | .error (.failure f) => decidable_of_iff' (f.kind = k) (failsOnlyAs_failure f)
  | .error (.accident a) => .isFalse (failsOnlyAs_accident a)

namespace Work

/-- Two pieces of work fail as one kind if the first does, and the second wherever the first leads. -/
theorem failsOnlyAs_bind {m : Work α} {f : α → Work β} :
    FailsOnlyAs k ((m >>= f) s w).1 ↔
      FailsOnlyAs k (m s w).1 ∧ ∀ a v, m s w = (.ok a, v) → FailsOnlyAs k (f a s v).1 := by
  rcases hr : m s w with ⟨r, v⟩
  cases r with
  | ok a =>
    rw [bind_of_ok hr]
    refine ⟨fun h => ⟨failsOnlyAs_ok a, ?_⟩, fun h => h.2 a v rfl⟩
    rintro b u ⟨⟩
    exact h
  | error t =>
    rw [bind_of_error hr]
    cases t with
    | failure f => simp
    | accident a => simp

theorem failsOnlyAs_fail (f : Failure) :
    FailsOnlyAs k ((fail f : Work α) s w).1 ↔ f.kind = k :=
  failsOnlyAs_failure f

theorem not_failsOnlyAs_crash (a : Accident) : ¬ FailsOnlyAs k ((crash a : Work α) s w).1 :=
  failsOnlyAs_accident a

theorem failsOnlyAs_pure (a : α) : FailsOnlyAs k ((pure a : Work α) s w).1 := failsOnlyAs_ok a

theorem failsOnlyAs_inspect {look : Workspace → Path → Except FileError α} {p : Path} :
    FailsOnlyAs k (inspect look p s w).1 ↔ ∃ a, look w p = .ok a := by
  cases h : look w p with
  | ok a => simp [inspect_of_ok h]
  | error e => simp [inspect_of_error h]

end Work

end FailsOnlyAs

end ScriptDoc
