import ScriptDoc.Proofs.Data.Overlay
import ScriptDoc.Proofs.Json.Steps

/-!
# The names of a JSON object

A name that an object of a JSON text states twice has its last value, so the objects that are read have
distinct names, at any depth (`Json.keyed_of_read`).
-/

namespace ScriptDoc.Json

open Value

/-- What is read at the front of a text is keyed if the parts before it are. -/
structure ReadsKeyed (s : List Char) : Prop where
  value : ∀ {room v rest}, Took (readValue room s) v rest → v.Keyed
  items : ∀ {room acc items rest}, (∀ v ∈ acc, v.Keyed) → Took (readItems room acc s) items rest →
    ∀ v ∈ items, v.Keyed
  members : ∀ {room acc entries rest}, Keyed (.map acc) →
    Took (readMembers room acc s) entries rest → Keyed (.map entries)

theorem keyed_nil : Keyed (.map []) := @Keyed.object [] (by simp) (by simp)

/-- Each reader calls the others further on only, except that an item starts with a value: an induction
on the length of the text carries all three. -/
theorem readsKeyed (s : List Char) : ReadsKeyed s := by
  induction hn : s.length using Nat.strongRecOn generalizing s with
  | _ n ih =>
    subst hn
    have hshorter {t : List Char} (ht : t.length < s.length) : ReadsKeyed t := ih _ ht t rfl
    have hvalue {room v rest} (h : Took (readValue room s) v rest) : v.Keyed := by
      obtain ⟨x, rfl⟩ | ⟨items, rfl, hitems⟩ | ⟨entries, rfl, hentries⟩ := h.value_cases
      · exact .scalar x
      · rcases hitems with rfl | ⟨_, t, _, ht, hitems⟩
        · exact .list (by simp)
        · exact .list ((hshorter ht).items (by simp) hitems)
      · rcases hentries with rfl | ⟨_, t, _, ht, hentries⟩
        · exact keyed_nil
        · exact (hshorter ht).members keyed_nil hentries
    refine ⟨hvalue, ?_, ?_⟩
    · intro room acc items rest hacc h
      obtain ⟨v, _, hv, hrest⟩ := h.items_cases
      have hmore : ∀ u ∈ v :: acc, u.Keyed := List.forall_mem_cons.2 ⟨hvalue hv, hacc⟩
      rcases hrest with rfl | ⟨t, _, ht, hrest⟩
      · exact fun u hu => hmore u (List.mem_reverse.1 hu)
      · exact (hshorter ht).items hmore hrest
    · intro room acc entries rest hacc h
      obtain ⟨name, v, s₁, _, hs₁, hv, hrest⟩ := h.members_cases
      have hmore := hacc.insert ((hshorter hs₁).value hv) name
      rcases hrest with rfl | ⟨t, _, ht, hrest⟩
      · exact hmore
      · exact (hshorter ht).members hmore hrest

/-- **Every object of a JSON text has distinct names**, whatever the text repeats. -/
theorem keyed_of_read {text : List Char} {limits : NestingLimits} {v : Value}
    (h : read text limits = .ok v) : v.Keyed := by
  have hall : readAll text limits = .ok v := by
    cases hall : readAll text limits with
    | error f =>
      rw [read, hall] at h
      cases h
    | ok v' =>
      rw [read, hall] at h
      cases h
      rfl
  unfold readAll at hall
  split at hall
  · cases hall
  · split at hall
    · cases hall
    · rename_i v' r hr hv
      split at hall
      · cases hall
        exact (readsKeyed _).value ⟨hr, hv⟩
      · cases hall

end ScriptDoc.Json
