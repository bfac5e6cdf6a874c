import Mathlib.Data.List.Forall2
import Mathlib.Data.List.Induction
import Mathlib.Data.List.Nodup
import Mathlib.Data.List.Perm.Basic
import ScriptDoc.Document.Merge

/-!
# Lists of named records

A list of records is seen through two views: the list of its names, and the record that
`findNamed?` gives for a name.  A list with distinct names is determined by both
(`forall₂_of_names_eq`).

* `putNamed_eq_map`, what it means to put a record into the place of the one with its name;
* `names_foldl`, the names after records have been brought in one after the other: the first
  occurrence of each name stays, whatever happens to the records;
* `findNamed?_foldl`, the record of a name afterwards, which follows from the records of that name;
* `names_lastNamed`, `findNamed?_lastNamed`, `names_firstNamed`, `findNamed?_firstNamed`, the two
  ways to keep one record of each name.
-/

namespace ScriptDoc

theorem nodup_eraseDups {β : Type} [BEq β] [LawfulBEq β] (l : List β) : l.eraseDups.Nodup := by
  match l with
  | [] => exact List.nodup_nil
  | a :: l =>
    have hlt : (l.filter fun b => !b == a).length < (a :: l).length :=
      Nat.lt_succ_of_le (List.length_filter_le _ _)
    rw [List.eraseDups_cons, List.nodup_cons]
    exact ⟨by simp, nodup_eraseDups _⟩
termination_by l.length
decreasing_by exact hlt

theorem eraseDups_eq_self {β : Type} [BEq β] [LawfulBEq β] {l : List β} (h : l.Nodup) :
    l.eraseDups = l := by
  induction l with
  | nil => rfl
  | cons a l ih =>
    obtain ⟨ha, hl⟩ := List.nodup_cons.1 h
    have hf : l.filter (fun b => !b == a) = l := by
      rw [List.filter_eq_self]
      intro b hb
      have : b ≠ a := fun hba => ha (hba ▸ hb)
      simpa using this
    rw [List.eraseDups_cons, hf, ih hl]

theorem eraseDups_append_singleton {β : Type} [BEq β] [LawfulBEq β] (l : List β) (a : β) :
    (l ++ [a]).eraseDups = if a ∈ l then l.eraseDups else l.eraseDups ++ [a] := by
  rw [List.eraseDups_append]
  by_cases h : a ∈ l
  · simp [List.removeAll, h]
  · simp [List.removeAll, h, List.eraseDups_cons]

theorem eraseDups_append_eraseDups {β : Type} [BEq β] [LawfulBEq β] (l m : List β) :
    (l ++ m.eraseDups).eraseDups = (l ++ m).eraseDups := by
  induction m using List.reverseRecOn with
  | nil => rfl
  | append_singleton m a ih =>
    rw [eraseDups_append_singleton, ← List.append_assoc, eraseDups_append_singleton, ← ih]
    by_cases hm : a ∈ m
    · simp [hm]
    · rw [if_neg hm, ← List.append_assoc, eraseDups_append_singleton]
      simp

theorem eraseDups_eraseDups_append {β : Type} [BEq β] [LawfulBEq β] (l m : List β) :
    (l.eraseDups ++ m).eraseDups = (l ++ m).eraseDups := by
  rw [List.eraseDups_append, List.eraseDups_append, eraseDups_eq_self (nodup_eraseDups l)]
  simp [List.removeAll]

theorem eraseDups_append_eq {β : Type} [BEq β] [LawfulBEq β] (l m : List β) :
    (l ++ m).eraseDups = l.eraseDups ++ m.eraseDups.filter (· ∉ l) := by
  induction m using List.reverseRecOn with
  | nil => simp
  | append_singleton m a ih =>
    rw [← List.append_assoc, eraseDups_append_singleton, eraseDups_append_singleton, ih]
    by_cases hm : a ∈ m
    · simp [hm]
    · by_cases hl : a ∈ l <;> simp [hm, hl]

theorem eraseDups_append_of_subset {β : Type} [BEq β] [LawfulBEq β] {l m : List β} (h : m ⊆ l) :
    (l ++ m).eraseDups = l.eraseDups := by
  have hnone : m.removeAll l = [] := List.filter_eq_nil_iff.2 fun b hb => by simp [h hb]
  rw [List.eraseDups_append, hnone, List.eraseDups_nil, List.append_nil]

section Named

variable {α : Type} [Named α]

/-- The names of records, in their order. -/
def names (rs : List α) : List String := rs.map Named.name

@[simp] theorem names_nil : names ([] : List α) = [] := rfl

@[simp] theorem names_cons (r : α) (rs : List α) : names (r :: rs) = Named.name r :: names rs := rfl

@[simp] theorem names_append (rs ss : List α) : names (rs ++ ss) = names rs ++ names ss :=
  List.map_append

theorem name_mem_names {r : α} {rs : List α} (h : r ∈ rs) : Named.name r ∈ names rs :=
  List.mem_map_of_mem h

theorem nodup_names_append_singleton {r : α} {rs : List α} (h : (names rs).Nodup)
    (hr : Named.name r ∉ names rs) : (names (rs ++ [r])).Nodup := by
  rw [names_append, names_cons, names_nil, ← List.concat_eq_append]
  exact h.concat hr

/-! ### The record of a name -/

theorem findNamed?_cons (x : String) (r : α) (rs : List α) :
    findNamed? x (r :: rs) = if Named.name r = x then some r else findNamed? x rs := by
  by_cases h : Named.name r = x <;> simp [findNamed?, h]

theorem findNamed?_append (x : String) (rs ss : List α) :
    findNamed? x (rs ++ ss) = (findNamed? x rs).or (findNamed? x ss) :=
  List.find?_append

theorem name_of_findNamed? {x : String} {r : α} {rs : List α} (h : findNamed? x rs = some r) :
    Named.name r = x := by
  simpa using List.find?_some h

theorem mem_of_findNamed? {x : String} {r : α} {rs : List α} (h : findNamed? x rs = some r) :
    r ∈ rs :=
  List.mem_of_find?_eq_some h

theorem findNamed?_eq_none {x : String} {rs : List α} : findNamed? x rs = none ↔ x ∉ names rs := by
  simp [findNamed?, names]

theorem isSome_findNamed? {x : String} {rs : List α} :
    (findNamed? x rs).isSome = true ↔ x ∈ names rs := by
  rw [← not_iff_not, ← findNamed?_eq_none]
  simp

/-- With distinct names, the record that is found is the one that is there. -/
theorem findNamed?_of_mem {r : α} {rs : List α} (h : (names rs).Nodup) (hr : r ∈ rs) :
    findNamed? (Named.name r) rs = some r := by
  induction rs with
  | nil => simp at hr
  | cons s rs ih =>
    obtain ⟨hs, hrs⟩ := List.nodup_cons.1 h
    rcases List.mem_cons.1 hr with rfl | hr
    · rw [findNamed?_cons, if_pos rfl]
    · have hne : Named.name s ≠ Named.name r := fun he => hs (he ▸ name_mem_names hr)
      rw [findNamed?_cons, if_neg hne, ih hrs hr]

theorem findNamed?_perm {rs ss : List α} (h : rs.Perm ss) (hd : (names rs).Nodup) (x : String) :
    findNamed? x rs = findNamed? x ss := by
  have hd' : (names ss).Nodup := (h.map Named.name).nodup_iff.1 hd
  cases hr : findNamed? x rs with
  | none =>
    have hx : x ∉ names ss := fun hx =>
      findNamed?_eq_none.1 hr ((h.map Named.name).mem_iff.2 hx)
    exact (findNamed?_eq_none.2 hx).symm
  | some r =>
    have hf := findNamed?_of_mem hd' (h.mem_iff.1 (mem_of_findNamed? hr))
    rw [name_of_findNamed? hr] at hf
    exact hf.symm

/-- Lists with the same distinct names are related record by record if the two records of each name
are. -/
theorem forall₂_of_names_eq {E : α → α → Prop} {rs ss : List α} (hn : names rs = names ss)
    (hd : (names rs).Nodup)
    (hf : ∀ x r s, findNamed? x rs = some r → findNamed? x ss = some s → E r s) :
    List.Forall₂ E rs ss := by
  induction rs generalizing ss with
  | nil =>
    cases ss with
    | nil => exact .nil
    | cons s ss => simp at hn
  | cons r rs ih =>
    cases ss with
    | nil => simp at hn
    | cons s ss =>
      obtain ⟨hname, htail⟩ : Named.name r = Named.name s ∧ names rs = names ss := by
        simpa using hn
      obtain ⟨hr, hrs⟩ := List.nodup_cons.1 hd
      refine .cons (hf (Named.name r) r s ?_ ?_) (ih htail hrs fun x r' s' hr' hs' => ?_)
      · rw [findNamed?_cons, if_pos rfl]
      · rw [findNamed?_cons, if_pos hname.symm]
      · have hx : Named.name r ≠ x := by
          rintro rfl
          exact hr (name_of_findNamed? hr' ▸ name_mem_names (mem_of_findNamed? hr'))
        refine hf x r' s' ?_ ?_
        · rwa [findNamed?_cons, if_neg hx]
        · rwa [findNamed?_cons, if_neg (hname ▸ hx)]

/-- A list with distinct names is determined by its names and by the record of each. -/
theorem eq_of_names_eq {rs ss : List α} (hn : names rs = names ss) (hd : (names rs).Nodup)
    (hf : ∀ x, findNamed? x rs = findNamed? x ss) : rs = ss := by
  rw [← List.forall₂_eq_eq_eq]
  refine forall₂_of_names_eq hn hd fun x r s hr hs => ?_
  rw [hf, hs] at hr
  exact (Option.some.inj hr).symm

/-! ### One more record -/

theorem findNamed?_putNamed (x : String) (r : α) (rs : List α) :
    findNamed? x (putNamed r rs) = if Named.name r = x then some r else findNamed? x rs := by
  induction rs with
  | nil => exact findNamed?_cons x r []
  | cons s rs ih =>
    by_cases hs : Named.name s = Named.name r
    · have hput : putNamed r (s :: rs) = r :: rs := by simp [putNamed, hs]
      rw [hput, findNamed?_cons, findNamed?_cons, hs]
      split <;> rfl
    · have hput : putNamed r (s :: rs) = s :: putNamed r rs := by simp [putNamed, hs]
      rw [hput, findNamed?_cons, findNamed?_cons, ih]
      split
      · next hsx => rw [if_neg fun hrx => hs (hsx.trans hrx.symm)]
      · rfl

theorem putNamed_of_notMem {r : α} {rs : List α} (h : Named.name r ∉ names rs) :
    putNamed r rs = rs ++ [r] := by
  induction rs with
  | nil => rfl
  | cons s rs ih =>
    rw [names_cons, List.mem_cons, not_or] at h
    have hs : (Named.name s == Named.name r) = false := by simpa using Ne.symm h.1
    rw [putNamed, hs, ih h.2]
    rfl

/-- A name that is there keeps its place. -/
theorem names_putNamed_of_mem {r : α} {rs : List α} (h : Named.name r ∈ names rs) :
    names (putNamed r rs) = names rs := by
  induction rs with
  | nil => simp at h
  | cons s rs ih =>
    by_cases hs : Named.name s = Named.name r
    · simp [putNamed, hs]
    · have hr : Named.name r ∈ names rs := by
        rcases List.mem_cons.1 h with he | hr
        · exact absurd he.symm hs
        · exact hr
      simp [putNamed, hs, ih hr]

theorem names_putNamed (r : α) (rs : List α) :
    names (putNamed r rs) =
      if Named.name r ∈ names rs then names rs else names rs ++ [Named.name r] := by
  split
  · next h => exact names_putNamed_of_mem h
  · next h => rw [putNamed_of_notMem h, names_append]; rfl

theorem putNamed_eq_map {r : α} {rs : List α} (hd : (names rs).Nodup)
    (h : Named.name r ∈ names rs) :
    putNamed r rs = rs.map fun s => if Named.name s = Named.name r then r else s := by
  induction rs with
  | nil => simp at h
  | cons s rs ih =>
    obtain ⟨hs, hrs⟩ := List.nodup_cons.1 hd
    by_cases he : Named.name s = Named.name r
    · have hid : rs.map (fun t => if Named.name t = Named.name r then r else t) = rs := by
        conv_rhs => rw [← List.map_id rs]
        refine List.map_congr_left fun t ht => if_neg fun h' => hs ?_
        rw [he, ← h']
        exact name_mem_names ht
      simp [putNamed, he, hid]
    · have hr : Named.name r ∈ names rs := by
        rcases List.mem_cons.1 h with h' | hr
        · exact absurd h'.symm he
        · exact hr
      simp [putNamed, he, ih hrs hr]

/-- Bringing records in one after the other keeps the first occurrence of each name, as soon as each
step does. -/
theorem names_foldl {step : List α → α → List α}
    (hstep : ∀ known r, names (step known r) =
      if Named.name r ∈ names known then names known else names known ++ [Named.name r])
    (known rs : List α) (hd : (names known).Nodup) :
    names (rs.foldl step known) = (names known ++ names rs).eraseDups := by
  induction rs generalizing known with
  | nil => rw [names_nil, List.append_nil, eraseDups_eq_self hd, List.foldl_nil]
  | cons r rs ih =>
    have hnames : names (step known r) = (names known ++ [Named.name r]).eraseDups := by
      rw [hstep, eraseDups_append_singleton, eraseDups_eq_self hd]
    rw [List.foldl_cons, ih _ (hnames ▸ nodup_eraseDups _), hnames, eraseDups_eraseDups_append,
      names_cons, ← List.append_cons]

/-- Bringing records in one after the other changes the record of a name by the records of that name
alone, as soon as each step does. -/
theorem findNamed?_foldl {step : List α → α → List α} (change : Option α → α → Option α)
    (hstep : ∀ known r x, findNamed? x (step known r) =
      if Named.name r = x then change (findNamed? x known) r else findNamed? x known)
    (known rs : List α) (x : String) :
    findNamed? x (rs.foldl step known) =
      (rs.filter (Named.name · = x)).foldl change (findNamed? x known) := by
  induction rs generalizing known with
  | nil => rfl
  | cons r rs ih =>
    rw [List.foldl_cons, ih, hstep]
    by_cases h : Named.name r = x <;> simp [h]

theorem names_lastNamed (rs : List α) : names (lastNamed rs) = (names rs).eraseDups :=
  names_foldl (fun known r => names_putNamed r known) [] rs List.nodup_nil

theorem names_firstNamed (rs : List α) : names (firstNamed rs) = (names rs).eraseDups := by
  refine names_foldl (fun known r => ?_) [] rs List.nodup_nil
  simp only [isSome_findNamed?]
  split <;> simp

theorem findNamed?_lastNamed (rs : List α) (x : String) :
    findNamed? x (lastNamed rs) = (rs.filter (Named.name · = x)).getLast? := by
  have hlast (ss : List α) : ss.foldl (fun _ r => some r) none = ss.getLast? := by
    induction ss using List.reverseRecOn with
    | nil => rfl
    | append_singleton ss r _ => simp
  rw [lastNamed, findNamed?_foldl (fun _ r => some r) fun known r x => findNamed?_putNamed x r known]
  exact hlast _

theorem findNamed?_firstNamed (rs : List α) (x : String) :
    findNamed? x (firstNamed rs) = findNamed? x rs := by
  have hfirst (ss : List α) : ss.foldl (fun o r => o.or (some r)) none = ss.head? := by
    induction ss using List.reverseRecOn with
    | nil => rfl
    | append_singleton ss r ih => rw [List.foldl_append, ih, List.head?_append]; rfl
  have hstep (known : List α) (r : α) (x : String) :
      findNamed? x (if (findNamed? (Named.name r) known).isSome then known else known ++ [r]) =
        if Named.name r = x then (findNamed? x known).or (some r) else findNamed? x known := by
    by_cases hx : Named.name r = x
    · subst hx
      cases hfind : findNamed? (Named.name r) known with
      | none => simp [findNamed?_append, findNamed?_cons, hfind]
      | some y => simp [hfind]
    · have hnone : findNamed? x [r] = none := by rw [findNamed?_cons, if_neg hx]; rfl
      rw [if_neg hx]
      split
      · rfl
      · rw [findNamed?_append, hnone, Option.or_none]
  rw [firstNamed, findNamed?_foldl (fun o r => o.or (some r)) hstep]
  refine (hfirst _).trans ?_
  rw [List.head?_filter, findNamed?]
  rfl

theorem nodup_names_lastNamed (rs : List α) : (names (lastNamed rs)).Nodup :=
  names_lastNamed rs ▸ nodup_eraseDups _

theorem nodup_names_firstNamed (rs : List α) : (names (firstNamed rs)).Nodup :=
  names_firstNamed rs ▸ nodup_eraseDups _

theorem mem_of_mem_lastNamed {r : α} {rs : List α} (h : r ∈ lastNamed rs) : r ∈ rs := by
  have hfind := findNamed?_of_mem (nodup_names_lastNamed rs) h
  rw [findNamed?_lastNamed] at hfind
  exact (List.mem_filter.1 (List.mem_of_getLast? hfind)).1

theorem mem_of_mem_firstNamed {r : α} {rs : List α} (h : r ∈ firstNamed rs) : r ∈ rs := by
  have hfind := findNamed?_of_mem (nodup_names_firstNamed rs) h
  rw [findNamed?_firstNamed] at hfind
  exact mem_of_findNamed? hfind

/-- A list with distinct names has nothing to drop. -/
theorem lastNamed_eq_self {rs : List α} (h : (names rs).Nodup) : lastNamed rs = rs := by
  suffices ∀ known : List α, (names (known ++ rs)).Nodup →
      rs.foldl (fun acc r => putNamed r acc) known = known ++ rs from this [] h
  intro known hd
  clear h
  induction rs generalizing known with
  | nil => rw [List.foldl_nil, List.append_nil]
  | cons r rs ih =>
    have hr : Named.name r ∉ names known := by
      intro h
      rw [names_append, names_cons] at hd
      exact (List.nodup_append.1 hd).2.2 _ h _ List.mem_cons_self rfl
    rw [List.foldl_cons, putNamed_of_notMem hr, ih _ (by rwa [← List.append_cons]),
      ← List.append_cons]

end Named

end ScriptDoc
