import ScriptDoc.Data.Value

/-!
# Maps from texts

The entries of an object are those of a list of named fields.  Looking a name up is `List.lookup` on
the fields, and setting a name that is not there adds a field at the end.  In any map, a text that was
set is found, and all other texts are found as before (`lookup_insert`).  An order of sets makes no
difference to items or fields in which there are none.
-/

namespace ScriptDoc.Value

/-- Named fields as the entries of a map. -/
def fieldEntries (fields : List (String × Value)) : List (Scalar × Value) :=
  fields.map fun f => (.text f.1, f.2)

theorem object_eq (fields : List (String × Value)) :
    object fields = .map (fieldEntries fields) := rfl

@[simp] theorem fieldEntries_cons (k : String) (v : Value) (fields : List (String × Value)) :
    fieldEntries ((k, v) :: fields) = (.text k, v) :: fieldEntries fields := rfl

theorem object_injective {fields fields' : List (String × Value)} (h : object fields = object fields') :
    fields = fields' := by
  refine (List.map_inj_right fun f f' hf => ?_).1 (Value.map.inj h)
  obtain ⟨hname, hvalue⟩ := Prod.mk.inj hf
  exact Prod.ext (Scalar.text.inj hname) hvalue

@[simp] theorem sameKey_text (a b : String) : (Scalar.text a).sameKey (.text b) = (a == b) := by
  change decide (Scalar.text a = Scalar.text b) = decide (a = b)
  simp only [Scalar.text.injEq]

theorem lookup_fieldEntries (key : String) (fields : List (String × Value)) :
    lookup (.text key) (fieldEntries fields) = fields.lookup key := by
  induction fields with
  | nil => rfl
  | cons f fields ih =>
    obtain ⟨k, v⟩ := f
    rw [fieldEntries_cons, lookup, sameKey_text, ih, List.lookup_cons, Bool.beq_comm]
    cases key == k <;> rfl

theorem lookup_eq_none {α : Type} {key : String} {fields : List (String × α)}
    (h : key ∉ fields.map Prod.fst) : fields.lookup key = none := by
  rw [List.lookup_eq_none_iff]
  intro f hf
  rw [bne_iff_ne]
  rintro rfl
  exact h (List.mem_map_of_mem hf)

/-- With distinct keys, what is listed under a key is found. -/
theorem lookup_of_mem {κ α : Type} [BEq κ] [LawfulBEq κ] {entries : List (κ × α)}
    (distinct : (entries.map Prod.fst).Nodup) {e : κ × α} (he : e ∈ entries) :
    entries.lookup e.1 = some e.2 := by
  obtain ⟨before, after, rfl⟩ := List.append_of_mem he
  rw [List.map_append, List.map_cons, List.nodup_append] at distinct
  refine List.lookup_eq_some_iff.2 ⟨before, after, rfl, ?_⟩
  intro p hp
  have hne := distinct.2.2 p.1 (List.mem_map_of_mem hp) e.1 List.mem_cons_self
  simpa using hne.symm

theorem insert_fieldEntries {key : String} {fields : List (String × Value)}
    (h : key ∉ fields.map Prod.fst) (value : Value) :
    insert (.text key) value (fieldEntries fields) = fieldEntries (fields ++ [(key, value)]) := by
  induction fields with
  | nil => rfl
  | cons f fields ih =>
    obtain ⟨k, v⟩ := f
    rw [List.map_cons, List.mem_cons, not_or] at h
    have hk : (k == key) = false := beq_eq_false_iff_ne.2 (Ne.symm h.1)
    rw [fieldEntries_cons, insert, sameKey_text, hk, ih h.2, List.cons_append, fieldEntries_cons]
    rfl

/-- Only a text is the same key as a text. -/
theorem eq_text_of_sameKey {k : Scalar} {name : String} (h : k.sameKey (.text name) = true) :
    k = .text name := by
  have hnone : (Scalar.text name).toInt? = none := rfl
  unfold Scalar.sameKey at h
  rw [hnone] at h
  cases hk : k.toInt? with
  | some n =>
    rw [hk] at h
    cases h
  | none =>
    rw [hk] at h
    cases k <;> exact beq_iff_eq.1 h

theorem lookup_insert (name key : String) (value : Value) (entries : List (Scalar × Value)) :
    lookup (.text name) (insert (.text key) value entries) =
      if key = name then some value else lookup (.text name) entries := by
  induction entries with
  | nil => simp [insert, lookup]
  | cons entry entries ih =>
    obtain ⟨k, v⟩ := entry
    rw [insert]
    split
    · rename_i hk
      obtain rfl := eq_text_of_sameKey hk
      by_cases hname : key = name <;> simp [lookup, hname]
    · rename_i hk
      rw [lookup, lookup, ih]
      by_cases hname : key = name
      · subst hname
        simp [hk]
      · simp [hname]

theorem arrangedItems_eq_self {order : SetOrder} {items : List Value}
    (h : ∀ v ∈ items, v.arranged order = v) : arrangedItems order items = items := by
  induction items with
  | nil => rfl
  | cons v items ih =>
    rw [List.forall_mem_cons] at h
    rw [arrangedItems, h.1, ih h.2]

theorem arrangedEntries_eq_self {order : SetOrder} {fields : List (String × Value)}
    (h : ∀ f ∈ fields, f.2.arranged order = f.2) :
    arrangedEntries order (fieldEntries fields) = fieldEntries fields := by
  induction fields with
  | nil => rfl
  | cons f fields ih =>
    rw [List.forall_mem_cons] at h
    rw [fieldEntries_cons, arrangedEntries, h.1, ih h.2]

end ScriptDoc.Value
