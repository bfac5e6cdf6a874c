import ScriptDoc.Proofs.Data.Object

/-!
# Updating an object by another

`Value.Keyed` says that all maps in a value are objects: their keys are texts, and no two of them are
the same.  An update by such a value has one thing to say about each name, so what is under a name
afterwards follows from what was under it in the two objects (`Value.field?_overlay`).

* `Value.Keyed.insert`: setting a name of an object gives an object;
* `Value.updated`, the value of a name after an update;
* `Value.field?_overlay`, and `Value.overlay_of_not_map` for what is replaced as a whole.
-/

namespace ScriptDoc.Value

/-- A value all of whose maps are objects with distinct names. -/
inductive Keyed : Value → Prop where
  | scalar (x : Scalar) : Keyed (.scalar x)
  | list {items : List Value} (h : ∀ v ∈ items, Keyed v) : Keyed (.list items)
  | object {fields : List (String × Value)} (distinct : (fields.map Prod.fst).Nodup)
      (h : ∀ f ∈ fields, Keyed f.2) : Keyed (.object fields)

/-- The entries of a keyed map are the fields of an object. -/
theorem Keyed.exists_fields {entries : List (Scalar × Value)} (h : Keyed (.map entries)) :
    ∃ fields, entries = fieldEntries fields ∧ (fields.map Prod.fst).Nodup ∧
      ∀ f ∈ fields, Keyed f.2 := by
  generalize hv : Value.map entries = v at h
  cases h with
  | scalar x => cases hv
  | list h => cases hv
  | object distinct h =>
    cases hv
    exact ⟨_, rfl, distinct, h⟩

theorem Keyed.of_field? {v value : Value} {name : String} (h : v.Keyed)
    (hvalue : v.field? name = some value) : value.Keyed := by
  cases v with
  | map entries =>
    obtain ⟨fields, rfl, -, hfields⟩ := h.exists_fields
    rw [field?, lookup_fieldEntries] at hvalue
    obtain ⟨before, after, rfl, -⟩ := List.lookup_eq_some_iff.1 hvalue
    exact hfields (name, value) (by simp)
  | _ => cases hvalue

/-- Setting a name that is there changes its value in its place. -/
theorem insert_fieldEntries_of_mem {key : String} {fields : List (String × Value)}
    (h : key ∈ fields.map Prod.fst) (value : Value) :
    ∃ before old after, fields = before ++ (key, old) :: after ∧
      insert (.text key) value (fieldEntries fields) =
        fieldEntries (before ++ (key, value) :: after) := by
  induction fields with
  | nil => cases h
  | cons f fields ih =>
    obtain ⟨k, v⟩ := f
    rw [fieldEntries_cons, insert, sameKey_text]
    by_cases hk : k = key
    · subst hk
      exact ⟨[], v, fields, rfl, by simp⟩
    · obtain ⟨before, old, after, rfl, hinsert⟩ :=
        ih ((List.mem_cons.1 h).resolve_left (Ne.symm hk))
      refine ⟨(k, v) :: before, old, after, rfl, ?_⟩
      rw [hinsert, if_neg (by simpa using hk)]
      rfl

theorem Keyed.insert {entries : List (Scalar × Value)} {value : Value} (h : Keyed (.map entries))
    (hvalue : Keyed value) (key : String) :
    Keyed (.map (Value.insert (.text key) value entries)) := by
  obtain ⟨fields, rfl, distinct, hfields⟩ := h.exists_fields
  by_cases hkey : key ∈ fields.map Prod.fst
  · obtain ⟨before, old, after, rfl, hinsert⟩ := insert_fieldEntries_of_mem hkey value
    rw [hinsert]
    refine .object (by simpa using distinct) fun f hf => ?_
    rcases List.mem_append.1 hf with hf | hf
    · exact hfields f (List.mem_append_left _ hf)
    · rcases List.mem_cons.1 hf with rfl | hf
      · exact hvalue
      · exact hfields f (List.mem_append_right _ (List.mem_cons_of_mem _ hf))
  · rw [insert_fieldEntries hkey]
    refine .object ?_ fun f hf => ?_
    · rw [List.map_append, List.nodup_append]
      refine ⟨distinct, by simp, fun name hname key' hkey' => ?_⟩
      obtain rfl := List.mem_singleton.1 hkey'
      exact ne_of_mem_of_not_mem hname hkey
    · rcases List.mem_append.1 hf with hf | hf
      · exact hfields f hf
      · obtain rfl := List.mem_singleton.1 hf
        exact hvalue

/-- The value of a name after an update: what the update says, on top of what was there before if both
are objects, and what was there before if the update says nothing. -/
def updated (old new : Option Value) : Option Value :=
  match new with
  | none => old
  | some v => some ((old.map (overlay · v)).getD v)

theorem lookup_overlayEntries (name : String) {fields : List (String × Value)}
    (distinct : (fields.map Prod.fst).Nodup) (old : List (Scalar × Value)) :
    lookup (.text name) (overlayEntries old (fieldEntries fields)) =
      updated (lookup (.text name) old) (fields.lookup name) := by
  induction fields generalizing old with
  | nil => rfl
  | cons f fields ih =>
    obtain ⟨k, v⟩ := f
    rw [List.map_cons, List.nodup_cons] at distinct
    rw [fieldEntries_cons, overlayEntries, ih distinct.2, lookup_insert, List.lookup_cons]
    by_cases hname : k = name
    · -- the rest says nothing more about the name
      subst hname
      rw [if_pos rfl, lookup_eq_none distinct.1, beq_self_eq_true]
      cases lookup (.text k) old <;> rfl
    · rw [if_neg hname, beq_eq_false_iff_ne.2 (Ne.symm hname)]

/-- **What is under a name after an update.** -/
theorem field?_overlay (old : List (Scalar × Value)) {update : Value} (name : String)
    (hkeyed : update.Keyed) (hmap : ∃ entries, update = .map entries) :
    (overlay (.map old) update).field? name =
      updated (lookup (.text name) old) (update.field? name) := by
  obtain ⟨entries, rfl⟩ := hmap
  obtain ⟨fields, rfl, distinct, -⟩ := hkeyed.exists_fields
  rw [field?, lookup_fieldEntries, ← lookup_overlayEntries name distinct, overlay]
  rfl

/-- What is not an object is replaced as a whole. -/
theorem overlay_of_not_map {base : Value} (h : ∀ entries, base ≠ .map entries) (update : Value) :
    base.overlay update = update := by
  cases update with
  | map entries =>
    cases base with
    | map old => exact absurd rfl (h old)
    | _ => rw [overlay]; simp
  | _ => simp [overlay]

end ScriptDoc.Value
