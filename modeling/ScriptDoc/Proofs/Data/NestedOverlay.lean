import ScriptDoc.Proofs.Data.Overlay

/-!
# Updates at all depths

An update goes down where both sides hold an object, so it is seen best from the paths of names that lead
into a value.  What is not an object stands in the result as the update has it, and what the update does
not mention stands as it was.  The names of each object that is on both sides keep their order.

* `Value.at?`, the value at a path;
* `Value.at?_overlay`: the update of two objects is, at a path that leads to objects on both sides, the
  update of these;
* `Value.overlayEntries_eq_self`: an update changes nothing if it changes none of the fields it names;
* `Value.overlay_self`, and `Value.overlay_overlay`: an update that is made again changes nothing;
* `Value.IsOverlay`, what holds of an update at every path, and `Value.overlay_laws`.
-/

namespace ScriptDoc.Value

/-! ### Paths -/

/-- A map. -/
def IsMap (v : Value) : Prop := ∃ entries, v = .map entries

/-- The value at the end of a path of names, if all that comes before it is a map. -/
def at? : Value → List String → Option Value
  | v, [] => some v
  | v, name :: path => (v.field? name).bind fun w => w.at? path

@[simp] theorem at?_nil (v : Value) : v.at? [] = some v := rfl

theorem at?_cons (v : Value) (name : String) (path : List String) :
    v.at? (name :: path) = (v.field? name).bind fun w => w.at? path := rfl

theorem at?_append (v : Value) (path more : List String) :
    v.at? (path ++ more) = (v.at? path).bind fun w => w.at? more := by
  induction path generalizing v with
  | nil => rfl
  | cons name path ih =>
    rw [List.cons_append, at?_cons, at?_cons, Option.bind_assoc]
    congr 1
    funext w
    exact ih w

theorem at?_concat {v w : Value} {path : List String} (h : v.at? path = some w) (name : String) :
    v.at? (path ++ [name]) = w.field? name := by
  rw [at?_append, h]
  cases hfield : w.field? name <;> simp [at?_cons, hfield]

theorem isMap_of_field? {v w : Value} {name : String} (h : v.field? name = some w) : v.IsMap := by
  cases v with
  | map entries => exact ⟨entries, rfl⟩
  | _ => cases h

theorem Keyed.of_at? {v w : Value} {path : List String} (hv : v.Keyed) (h : v.at? path = some w) :
    w.Keyed := by
  induction path generalizing v with
  | nil =>
    cases h
    exact hv
  | cons name path ih =>
    obtain ⟨u, hu, hw⟩ := Option.bind_eq_some_iff.1 h
    exact ih (hv.of_field? hu) hw

theorem keyed_object_iff {fields : List (String × Value)} :
    (object fields).Keyed ↔ (fields.map Prod.fst).Nodup ∧ ∀ f ∈ fields, Keyed f.2 := by
  refine ⟨fun h => ?_, fun h => .object h.1 h.2⟩
  obtain ⟨fields', heq, hfields⟩ := h.exists_fields
  obtain rfl := object_injective (congrArg Value.map heq)
  exact hfields

/-! ### One level -/

/-- What is no map replaces all. -/
theorem overlay_of_not_isMap (base : Value) {update : Value} (h : ¬ update.IsMap) :
    base.overlay update = update := by
  cases update with
  | map entries => exact absurd ⟨entries, rfl⟩ h
  | _ => simp [overlay]

/-- The name of a map that is updated by a map. -/
theorem field?_overlay_of_isMap {base update : Value} (hbase : base.IsMap) (hupdate : update.IsMap)
    (hkeyed : update.Keyed) (name : String) :
    (base.overlay update).field? name = updated (base.field? name) (update.field? name) := by
  obtain ⟨old, rfl⟩ := hbase
  exact field?_overlay old name hkeyed hupdate

/-- One more field of an update. -/
theorem overlayEntries_cons (old : List (Scalar × Value)) (k : Scalar) (v : Value)
    (rest : List (Scalar × Value)) :
    overlayEntries old ((k, v) :: rest) =
      overlayEntries (insert k (((lookup k old).map (overlay · v)).getD v) old) rest := by
  rw [overlayEntries]
  cases lookup k old <;> rfl

/-- The names of the base, and then the new ones. -/
theorem overlayEntries_fieldEntries (old : List (String × Value)) {new : List (String × Value)}
    (distinct : (new.map Prod.fst).Nodup) :
    ∃ all, overlayEntries (fieldEntries old) (fieldEntries new) = fieldEntries all ∧
      all.map Prod.fst = old.map Prod.fst ++ (new.map Prod.fst).filter (· ∉ old.map Prod.fst) := by
  induction new generalizing old with
  | nil => exact ⟨old, rfl, by simp⟩
  | cons f new ih =>
    obtain ⟨k, v⟩ := f
    rw [List.map_cons, List.nodup_cons] at distinct
    rw [fieldEntries_cons, overlayEntries_cons]
    generalize ((lookup (.text k) (fieldEntries old)).map (overlay · v)).getD v = merged
    by_cases hk : k ∈ old.map Prod.fst
    · obtain ⟨before, value, after, rfl, hinsert⟩ := insert_fieldEntries_of_mem hk merged
      obtain ⟨all, hall, hnames⟩ := ih (before ++ (k, merged) :: after) distinct.2
      refine ⟨all, by rw [hinsert, hall], ?_⟩
      have hsame : (before ++ (k, merged) :: after).map Prod.fst =
          (before ++ (k, value) :: after).map Prod.fst := by simp
      rw [hnames, hsame, List.map_cons, List.filter_cons_of_neg (by simp)]
    · obtain ⟨all, hall, hnames⟩ := ih (old ++ [(k, merged)]) distinct.2
      refine ⟨all, by rw [insert_fieldEntries hk, hall], ?_⟩
      have hrest : (new.map Prod.fst).filter (· ∉ (old ++ [(k, merged)]).map Prod.fst) =
          (new.map Prod.fst).filter (· ∉ old.map Prod.fst) := by
        refine List.filter_congr fun name hname => ?_
        have hne : name ≠ k := ne_of_mem_of_not_mem hname distinct.1
        simp [hne]
      rw [hnames, hrest, List.map_cons, List.filter_cons_of_pos (by simpa using hk), List.map_append,
        List.append_assoc]
      rfl

/-! ### Updates that change nothing -/

theorem insert_eq_self {key : String} {entries : List (Scalar × Value)} {value : Value}
    (h : lookup (.text key) entries = some value) : insert (.text key) value entries = entries := by
  induction entries with
  | nil => cases h
  | cons entry entries ih =>
    obtain ⟨k, v⟩ := entry
    rw [lookup] at h
    rw [insert]
    split
    · next hk =>
      rw [if_pos hk] at h
      rw [Option.some.inj h]
    · next hk =>
      rw [if_neg hk] at h
      rw [ih h]

/-- An update changes nothing if it changes none of the fields it names. -/
theorem overlayEntries_eq_self {entries : List (Scalar × Value)} {fields : List (String × Value)}
    (h : ∀ f ∈ fields, ∃ w, lookup (.text f.1) entries = some w ∧ w.overlay f.2 = w) :
    overlayEntries entries (fieldEntries fields) = entries := by
  induction fields with
  | nil => rfl
  | cons f fields ih =>
    obtain ⟨w, hw, hsame⟩ := h f List.mem_cons_self
    rw [fieldEntries_cons, overlayEntries_cons, hw, Option.map_some, Option.getD_some, hsame,
      insert_eq_self hw]
    exact ih fun g hg => h g (List.mem_cons_of_mem _ hg)

/-- A value updated by itself. -/
theorem overlay_self {v : Value} (h : v.Keyed) : v.overlay v = v := by
  induction h with
  | scalar x => simp [overlay]
  | list h ih => simp [overlay]
  | @object fields distinct h ih =>
    rw [object_eq, overlay]
    refine congrArg Value.map (overlayEntries_eq_self fun f hf => ⟨f.2, ?_, ih f hf⟩)
    rw [lookup_fieldEntries, lookup_of_mem distinct hf]

/-- An update that is made again changes nothing. -/
theorem overlay_overlay (base : Value) {update : Value} (h : update.Keyed) :
    (base.overlay update).overlay update = base.overlay update := by
  -- where the base has nothing to update, the update meets itself
  induction h generalizing base with
  | scalar x => simp [overlay]
  | list h ih => simp [overlay]
  | @object fields distinct h ih =>
    by_cases hbase : base.IsMap
    · obtain ⟨old, rfl⟩ := hbase
      rw [object_eq, overlay, overlay]
      refine congrArg Value.map (overlayEntries_eq_self fun f hf => ?_)
      rw [lookup_overlayEntries f.1 distinct, lookup_of_mem distinct hf]
      cases lookup (.text f.1) old with
      | none => exact ⟨f.2, rfl, overlay_self (h f hf)⟩
      | some w => exact ⟨w.overlay f.2, rfl, ih f hf w⟩
    · rw [overlay_of_not_map (not_exists.1 hbase)]
      exact overlay_self (.object distinct h)

/-! ### All levels -/

theorem not_isMap_scalar (x : Scalar) : ¬ (scalar x).IsMap := fun ⟨_, h⟩ => nomatch h

theorem not_isMap_list (items : List Value) : ¬ (list items).IsMap := fun ⟨_, h⟩ => nomatch h

theorem keyed_overlayEntries {old : List (Scalar × Value)} {fields : List (String × Value)}
    (hold : Keyed (.map old))
    (h : ∀ f ∈ fields, Keyed f.2 ∧ ∀ w : Value, w.Keyed → (w.overlay f.2).Keyed) :
    Keyed (.map (overlayEntries old (fieldEntries fields))) := by
  induction fields generalizing old with
  | nil => exact hold
  | cons f fields ih =>
    obtain ⟨hkeyed, hupdated⟩ := h f List.mem_cons_self
    rw [fieldEntries_cons, overlayEntries_cons]
    refine ih (hold.insert ?_ f.1) fun g hg => h g (List.mem_cons_of_mem _ hg)
    cases hw : lookup (.text f.1) old with
    | none => exact hkeyed
    | some w => exact hupdated w (hold.of_field? hw)

/-- An update of an object by another gives an object. -/
theorem Keyed.overlay {base update : Value} (hbase : base.Keyed) (hupdate : update.Keyed) :
    (base.overlay update).Keyed := by
  induction hupdate generalizing base with
  | scalar x =>
    rw [overlay_of_not_isMap base (not_isMap_scalar x)]
    exact .scalar x
  | list h ih =>
    rw [overlay_of_not_isMap base (not_isMap_list _)]
    exact .list h
  | @object fields distinct h ih =>
    by_cases hmap : base.IsMap
    · obtain ⟨old, rfl⟩ := hmap
      rw [object_eq, Value.overlay]
      exact keyed_overlayEntries hbase fun f hf => ⟨h f hf, fun w hw => ih f hf hw⟩
    · rw [overlay_of_not_map (not_exists.1 hmap)]
      exact .object distinct h

/-- Where a path leads to a value on both sides, the result has the update of one by the other. -/
theorem at?_overlay {base update w v : Value} {path : List String} (hkeyed : update.Keyed)
    (hw : base.at? path = some w) (hv : update.at? path = some v) :
    (base.overlay update).at? path = some (w.overlay v) := by
  induction path generalizing base update with
  | nil =>
    cases hw
    cases hv
    rfl
  | cons name path ih =>
    obtain ⟨w', hw', hw⟩ := Option.bind_eq_some_iff.1 hw
    obtain ⟨v', hv', hv⟩ := Option.bind_eq_some_iff.1 hv
    rw [at?_cons, field?_overlay_of_isMap (isMap_of_field? hw') (isMap_of_field? hv') hkeyed, hw', hv']
    exact ih (hkeyed.of_field? hv') hw hv

/-- What is no map in the update stands in the result. -/
theorem at?_overlay_of_not_isMap {base update v : Value} {path : List String} (hkeyed : update.Keyed)
    (hv : update.at? path = some v) (hvmap : ¬ v.IsMap) :
    (base.overlay update).at? path = some v := by
  induction path generalizing base update with
  | nil =>
    cases hv
    rw [overlay_of_not_isMap base hvmap, at?_nil]
  | cons name path ih =>
    by_cases hbase : base.IsMap
    · obtain ⟨v', hv', hrest⟩ := Option.bind_eq_some_iff.1 hv
      rw [at?_cons, field?_overlay_of_isMap hbase (isMap_of_field? hv') hkeyed, hv']
      cases base.field? name with
      | none => exact hrest
      | some w => exact ih (hkeyed.of_field? hv') hrest
    · rw [overlay_of_not_map (not_exists.1 hbase)]
      exact hv

/-- What holds of the update of one object by another at every path. -/
structure IsOverlay (base update result : Value) : Prop where
  /-- The result is an object, with distinct names at all levels. -/
  keyed : result.Keyed
  /-- What the update has at a path is there if it is no object. -/
  replaced : ∀ path v, update.at? path = some v → ¬ v.IsMap → result.at? path = some v
  /-- It is there as well if it is an object but the base has no object in that place. -/
  added : ∀ path name w u v, base.at? path = some w → w.IsMap → update.at? path = some u →
    u.field? name = some v → (∀ x ∈ w.field? name, ¬ x.IsMap) →
      result.at? (path ++ [name]) = some v
  /-- What the update does not mention is there as the base has it. -/
  kept : ∀ path name w u, base.at? path = some w → w.IsMap → update.at? path = some u → u.IsMap →
    update.at? (path ++ [name]) = none → result.at? (path ++ [name]) = base.at? (path ++ [name])
  /-- The names of an object on both sides are those of the base and then the new ones. -/
  names : ∀ path old new, base.at? path = some (object old) → update.at? path = some (object new) →
    ∃ all, result.at? path = some (object all) ∧
      all.map Prod.fst = old.map Prod.fst ++ (new.map Prod.fst).filter (· ∉ old.map Prod.fst)

theorem isOverlay_overlay {base update : Value} (hbase : base.Keyed) (hupdate : update.Keyed) :
    IsOverlay base update (base.overlay update) where
  keyed := hbase.overlay hupdate
  replaced path v hv hvmap := at?_overlay_of_not_isMap hupdate hv hvmap
  added path name w u v hw hwmap hu hv hnone := by
    have humap := isMap_of_field? hv
    rw [at?_concat (at?_overlay hupdate hw hu),
      field?_overlay_of_isMap hwmap humap (hupdate.of_at? hu), hv]
    cases hfield : w.field? name with
    | none => rfl
    | some x => simp [updated, overlay_of_not_map (not_exists.1 (hnone x hfield))]
  kept path name w u hw hwmap hu humap hnone := by
    rw [at?_concat hu] at hnone
    rw [at?_concat (at?_overlay hupdate hw hu), at?_concat hw,
      field?_overlay_of_isMap hwmap humap (hupdate.of_at? hu), hnone]
    rfl
  names path old new hold hnew := by
    obtain ⟨all, hall, hnames⟩ := overlayEntries_fieldEntries old
      (keyed_object_iff.1 (hupdate.of_at? hnew)).1
    refine ⟨all, ?_, hnames⟩
    rw [at?_overlay hupdate hold hnew, object_eq, object_eq, object_eq, ← hall, overlay]

/-- **Updating one object by another.** At every path the result has what the update has there, or else
what the base has, with the names of both in their order.  An update by nothing or by the same object changes
nothing, and neither does an update that is made again. -/
theorem overlay_laws {old new : List (String × Value)} (hold : (object old).Keyed)
    (hnew : (object new).Keyed) :
    IsOverlay (object old) (object new) ((object old).overlay (object new)) ∧
      (object old).overlay (object []) = object old ∧
      (object old).overlay (object old) = object old ∧
      ((object old).overlay (object new)).overlay (object new) = (object old).overlay (object new) :=
  ⟨isOverlay_overlay hold hnew, rfl, overlay_self hold, overlay_overlay (object old) hnew⟩

/-- Objects that meet a number, a list, a null and nothing at all. -/
theorem overlay_laws_nested :
    let old := [("a", object [("x", int 1), ("y", .list []), ("z", object [("k", null)])]), ("b", int 2)]
    let new := [("b", object [("m", object [])]), ("c", null),
      ("a", object [("w", int 5), ("z", object [("l", null), ("k", int 7)]), ("y", object [])])]
    let result := object [("a", object [("x", int 1), ("y", object []),
        ("z", object [("k", int 7), ("l", null)]), ("w", int 5)]),
      ("b", object [("m", object [])]), ("c", null)]
    (object old).Keyed ∧ (object new).Keyed ∧ IsOverlay (object old) (object new) result ∧
      (object old).overlay (object []) = object old ∧ (object old).overlay (object old) = object old ∧
      result.overlay (object new) = result := by
  intro old new result
  have hnull : null.Keyed := .scalar _
  have hint (n : Int) : (int n).Keyed := .scalar _
  have hlist : (list []).Keyed := .list (List.forall_mem_nil _)
  have hold : (object old).Keyed := by simp [old, keyed_object_iff, hnull, hint, hlist]
  have hnew : (object new).Keyed := by simp [new, keyed_object_iff, hnull, hint]
  have hresult : (object old).overlay (object new) = result := rfl
  have hlaws := overlay_laws hold hnew
  rw [hresult] at hlaws
  exact ⟨hold, hnew, hlaws⟩

end ScriptDoc.Value
