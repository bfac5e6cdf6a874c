import Mathlib.Data.List.Induction
import ScriptDoc.Proofs.Document.Names

/-!
# Buckets

Values that come with keys are gathered in one pass.  A value goes to the end of the bucket of its key; the
first value of a key opens a new bucket behind the others, and may leave something in it beforehand.

* `Buckets.gather`, the pass, and `Buckets.put`, one step of it;
* `Buckets.gather_eq`: afterwards the keys stand in the order in which they were first seen, and each bucket
  holds the values of its key in their order, whatever stood between them;
* `pairwise_idxOf_eraseDups`, `eq_of_pairwise`: the order of first sight, and why an order and the elements
  determine a list.
-/

namespace ScriptDoc

/-! ### Lists in an order -/

/-- Without its repetitions, a list is in the order of first sight. -/
theorem pairwise_idxOf_eraseDups {α : Type} [BEq α] [LawfulBEq α] (l : List α) :
    l.eraseDups.Pairwise fun a b => l.idxOf a < l.idxOf b := by
  induction l using List.reverseRecOn with
  | nil => exact .nil
  | append_singleton l c ih =>
    have hold : l.eraseDups.Pairwise fun a b => (l ++ [c]).idxOf a < (l ++ [c]).idxOf b := by
      refine ih.imp_of_mem fun {a b} ha hb hab => ?_
      rw [List.mem_eraseDups] at ha hb
      rwa [List.idxOf_append_of_mem ha, List.idxOf_append_of_mem hb]
    rw [eraseDups_append_singleton]
    split
    · exact hold
    · next hc =>
      refine List.pairwise_append.2 ⟨hold, List.pairwise_singleton _ _, fun a ha b hb => ?_⟩
      rw [List.mem_eraseDups] at ha
      rw [List.mem_singleton.1 hb, List.idxOf_append_of_mem ha, List.idxOf_append_of_notMem hc]
      exact Nat.lt_add_right _ (List.idxOf_lt_length_of_mem ha)

/-- A list in a strict order is determined by its elements. -/
theorem eq_of_pairwise {α : Type} {r : α → α → Prop} (hr : ∀ a b, r a b → ¬ r b a) {l m : List α}
    (hl : l.Pairwise r) (hm : m.Pairwise r) (h : ∀ a, a ∈ l ↔ a ∈ m) : l = m := by
  have hne (a b : α) (hab : r a b) : a ≠ b := by
    rintro rfl
    exact hr a a hab hab
  have hperm : l.Perm m := (List.perm_ext_iff_of_nodup (hl.imp @hne) (hm.imp @hne)).2 h
  exact hperm.eq_of_pairwise (fun a b _ _ hab hba => absurd hba (hr a b hab)) hl hm

namespace Buckets

variable {κ β : Type} [DecidableEq κ]

/-- Puts a value into the bucket of its key. The first value of a key opens a bucket, in which `seed` of it is
already. -/
def put (seed : β → List β) (e : κ × β) : List (κ × List β) → List (κ × List β)
  | [] => [(e.1, seed e.2 ++ [e.2])]
  | b :: rest => if b.1 == e.1 then (b.1, b.2 ++ [e.2]) :: rest else b :: put seed e rest

/-- The buckets of values that come with keys. -/
def gather (seed : β → List β) (entries : List (κ × β)) : List (κ × List β) :=
  entries.foldl (fun buckets e => put seed e buckets) []

/-- The values of a key. -/
def valuesOf (entries : List (κ × β)) (key : κ) : List β :=
  (entries.filter (·.1 == key)).map (·.2)

/-- Values behind what `seed` makes of the first of them. -/
def seeded (seed : β → List β) (values : List β) : List β :=
  values.head?.elim [] seed ++ values

theorem valuesOf_concat (entries : List (κ × β)) (e : κ × β) (key : κ) :
    valuesOf (entries ++ [e]) key = valuesOf entries key ++ if e.1 = key then [e.2] else [] := by
  by_cases h : e.1 = key <;> simp [valuesOf, h]

theorem valuesOf_eq_nil {entries : List (κ × β)} {key : κ} :
    valuesOf entries key = [] ↔ key ∉ entries.map Prod.fst := by
  rw [valuesOf, List.map_eq_nil_iff, List.filter_eq_nil_iff, List.mem_map]
  constructor
  · rintro h ⟨e, he, rfl⟩
    exact h e he (beq_self_eq_true _)
  · exact fun h e he hkey => h ⟨e, he, beq_iff_eq.1 hkey⟩

theorem seeded_concat (seed : β → List β) {values : List β} (h : values ≠ []) (v : β) :
    seeded seed (values ++ [v]) = seeded seed values ++ [v] := by
  cases values with
  | nil => exact absurd rfl h
  | cons u us => simp [seeded]

/-- A key that has a bucket. -/
theorem put_of_mem (seed : β → List β) (e : κ × β) {keys : List κ} (hd : keys.Nodup)
    (h : e.1 ∈ keys) (f : κ → List β) :
    put seed e (keys.map fun k => (k, f k)) =
      keys.map fun k => (k, if e.1 = k then f k ++ [e.2] else f k) := by
  induction keys with
  | nil => cases h
  | cons k keys ih =>
    obtain ⟨hk, hkeys⟩ := List.nodup_cons.1 hd
    rw [List.map_cons, List.map_cons, put]
    by_cases he : k = e.1
    · -- keys are distinct, so no other bucket changes
      have hrest : keys.map (fun k => (k, f k)) =
          keys.map fun k => (k, if e.1 = k then f k ++ [e.2] else f k) := by
        refine List.map_congr_left fun j hj => ?_
        rw [if_neg]
        rintro rfl
        exact hk (he ▸ hj)
      rw [if_pos (beq_iff_eq.2 he), if_pos he.symm, hrest]
    · have hmem : e.1 ∈ keys := (List.mem_cons.1 h).resolve_left (Ne.symm he)
      rw [if_neg (by simpa using he), if_neg (Ne.symm he), ih hkeys hmem]

/-- A key that has no bucket. -/
theorem put_of_notMem (seed : β → List β) (e : κ × β) {buckets : List (κ × List β)}
    (h : e.1 ∉ buckets.map Prod.fst) :
    put seed e buckets = buckets ++ [(e.1, seed e.2 ++ [e.2])] := by
  induction buckets with
  | nil => rfl
  | cons b buckets ih =>
    rw [List.map_cons, List.mem_cons, not_or] at h
    rw [put, if_neg (by simpa using Ne.symm h.1), ih h.2, List.cons_append]

/-- One step of the pass, on buckets that are the classes of the entries before it. -/
theorem put_classes (seed : β → List β) (entries : List (κ × β)) (e : κ × β) :
    put seed e ((entries.map Prod.fst).eraseDups.map fun k => (k, seeded seed (valuesOf entries k))) =
      ((entries ++ [e]).map Prod.fst).eraseDups.map fun k =>
        (k, seeded seed (valuesOf (entries ++ [e]) k)) := by
  rw [List.map_append, List.map_singleton, eraseDups_append_singleton]
  by_cases h : e.1 ∈ entries.map Prod.fst
  · rw [put_of_mem seed e (nodup_eraseDups _) (List.mem_eraseDups.2 h), if_pos h]
    refine List.map_congr_left fun k hk => ?_
    have hvalues : valuesOf entries k ≠ [] := fun hnil =>
      valuesOf_eq_nil.1 hnil (List.mem_eraseDups.1 hk)
    rw [valuesOf_concat]
    split
    · rw [seeded_concat seed hvalues]
    · rw [List.append_nil]
  · rw [put_of_notMem seed e (by simpa [List.mem_eraseDups] using h), if_neg h, List.map_append,
      List.map_singleton, valuesOf_concat, if_pos rfl, valuesOf_eq_nil.2 h]
    refine congrArg (· ++ _) (List.map_congr_left fun k hk => ?_)
    have hne : e.1 ≠ k := by
      rintro rfl
      exact h (List.mem_eraseDups.1 hk)
    rw [valuesOf_concat, if_neg hne, List.append_nil]

/-- **The buckets of a pass are the classes of the keys**, in the order in which the keys were first seen. -/
theorem gather_eq (seed : β → List β) (entries : List (κ × β)) :
    gather seed entries =
      (entries.map Prod.fst).eraseDups.map fun k => (k, seeded seed (valuesOf entries k)) := by
  induction entries using List.reverseRecOn with
  | nil => rfl
  | append_singleton entries e ih =>
    rw [gather, List.foldl_append, List.foldl_cons, List.foldl_nil, ← gather, ih, put_classes]

theorem keys_gather (seed : β → List β) (entries : List (κ × β)) :
    (gather seed entries).map Prod.fst = (entries.map Prod.fst).eraseDups := by
  rw [gather_eq, List.map_map]
  exact List.map_id _

end Buckets

end ScriptDoc
