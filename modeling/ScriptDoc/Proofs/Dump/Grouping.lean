import Mathlib.Algebra.GroupWithZero.Nat
import ScriptDoc.Proofs.Data.Buckets
import ScriptDoc.Proofs.Dump.Streams

/-!
# Enums from encoded members

A dump encodes the members of enums one by one and in any order.  Grouping them loses no member and makes none
up, whether or not the first member of each enum is repeated.

* `EnumRecord.Gathers`, what the enums of some members are, and `EnumRecord.eq_group_iff`: there is just one
  list of them;
* `EnumRecord.group_false`: the enums with repeated first members are the others, each with one member more;
* `EnumRecord.group_eq_gather`: one pass over the members gives the enums, with a bucket that starts with its
  first member if that is to be repeated;
* `EnumRecord.group_gathers`.
-/

namespace ScriptDoc

/-- The member that is encoded. -/
def EncodedMember.decoded (m : EncodedMember) : EnumMember := ⟨m.member, some m.number⟩

namespace EnumRecord

/-- One enum for each name that the entries have, in the order in which the names are first seen, and with the
members of that name in their order. -/
structure Gathers (entries : List EncodedMember) (enums : List EnumRecord) : Prop where
  firstSeen : (enums.map (·.name)).Pairwise fun x y =>
    (entries.map (·.enumName)).idxOf x < (entries.map (·.enumName)).idxOf y
  names : ∀ x, x ∈ enums.map (·.name) ↔ ∃ m ∈ entries, m.enumName = x
  members : ∀ e ∈ enums,
    e.members = (entries.filter (·.enumName = e.name)).map EncodedMember.decoded

/-- An enum with its first member once more in front. -/
def repeatFirst (e : EnumRecord) : EnumRecord := { e with members := e.members.head?.toList ++ e.members }

/-- What a bucket holds before its first member comes in. -/
def seed (dedupe : Bool) (m : EnumMember) : List EnumMember := if dedupe then [] else [m]

variable {entries : List EncodedMember}

theorem valuesOf_placed (entries : List EncodedMember) (x : String) :
    Buckets.valuesOf (entries.map EncodedMember.placed) x =
      (entries.filter (·.enumName = x)).map EncodedMember.decoded := by
  rw [Buckets.valuesOf, List.filter_map, List.map_map]
  rfl

theorem membersFor_eq (dedupe : Bool) (placed : List (String × EnumMember)) (x : String) :
    membersFor dedupe placed x = Buckets.seeded (seed dedupe) (Buckets.valuesOf placed x) := by
  unfold membersFor Buckets.seeded
  rw [← Buckets.valuesOf]
  cases Buckets.valuesOf placed x with
  | nil => rfl
  | cons m ms => cases dedupe <;> rfl

/-- One pass gives the enums. -/
theorem group_eq_gather (dedupe : Bool) (placed : List (String × EnumMember)) :
    group dedupe placed = (Buckets.gather (seed dedupe) placed).map fun b => ⟨b.1, b.2⟩ := by
  rw [Buckets.gather_eq, List.map_map, group]
  exact List.map_congr_left fun x _ => congrArg (EnumRecord.mk x) (membersFor_eq dedupe placed x)

theorem names_group_placed (dedupe : Bool) (entries : List EncodedMember) :
    (group dedupe (entries.map EncodedMember.placed)).map (·.name) =
      (entries.map (·.enumName)).eraseDups := by
  have hnames := names_group dedupe (entries.map EncodedMember.placed)
  rw [List.map_map] at hnames
  exact hnames

theorem gathers_group (entries : List EncodedMember) :
    Gathers entries (group true (entries.map EncodedMember.placed)) where
  firstSeen := names_group_placed true entries ▸ pairwise_idxOf_eraseDups _
  names x := by rw [names_group_placed, List.mem_eraseDups, List.mem_map]
  members e he := by
    obtain ⟨x, -, rfl⟩ := List.mem_map.1 he
    rw [← valuesOf_placed]
    exact Dump.membersFor_true _ _

/-- Enums are known from their names. -/
theorem Gathers.eq_map {enums : List EnumRecord} (h : Gathers entries enums) :
    enums = (enums.map (·.name)).map fun x =>
      ⟨x, (entries.filter (·.enumName = x)).map EncodedMember.decoded⟩ := by
  rw [List.map_map]
  refine (List.map_id _).symm.trans (List.map_congr_left fun e he => ?_)
  obtain ⟨name, members⟩ := e
  exact congrArg (EnumRecord.mk name) (h.members _ he)

/-- Entries have one list of enums. -/
theorem eq_group_iff {enums : List EnumRecord} :
    enums = group true (entries.map EncodedMember.placed) ↔ Gathers entries enums := by
  refine ⟨fun h => h ▸ gathers_group entries, fun h => ?_⟩
  have hg := gathers_group entries
  have hnames := eq_of_pairwise (fun _ _ => Nat.lt_asymm) h.firstSeen hg.firstSeen
    fun x => (h.names x).trans (hg.names x).symm
  rw [h.eq_map, hg.eq_map, hnames]

/-- Each entry is a member of one enum. -/
theorem Gathers.sum_length {enums : List EnumRecord} (h : Gathers entries enums) :
    (enums.map (·.members.length)).sum = entries.length := by
  have hd : (enums.map (·.name)).Nodup := h.firstSeen.imp fun hlt heq => by simp [heq] at hlt
  have hperm := Dump.perm_flatMap_filter EncodedMember.enumName hd fun m hm =>
    (h.names m.enumName).2 ⟨m, hm, rfl⟩
  rw [← hperm.length_eq, List.length_flatMap, List.map_map]
  refine congrArg List.sum (List.map_congr_left fun e he => ?_)
  rw [h.members e he, List.length_map]
  rfl

theorem Gathers.members_ne_nil {enums : List EnumRecord} (h : Gathers entries enums) {e : EnumRecord}
    (he : e ∈ enums) : e.members ≠ [] := by
  obtain ⟨m, hm, hname⟩ := (h.names e.name).1 (List.mem_map_of_mem he)
  rw [h.members e he]
  exact List.ne_nil_of_mem (List.mem_map_of_mem (List.mem_filter.2 ⟨hm, by simpa using hname⟩))

theorem group_false (placed : List (String × EnumMember)) :
    group false placed = (group true placed).map repeatFirst := by
  have hmembers (x : String) : membersFor false placed x =
      (membersFor true placed x).head?.toList ++ membersFor true placed x := by
    unfold membersFor
    cases (placed.filter (·.1 == x)).map (·.2) <;> rfl
  rw [group, group, List.map_map]
  exact List.map_congr_left fun x _ => congrArg (EnumRecord.mk x) (hmembers x)

theorem sum_length_repeatFirst {enums : List EnumRecord} (h : ∀ e ∈ enums, e.members ≠ []) :
    ((enums.map repeatFirst).map (·.members.length)).sum =
      (enums.map (·.members.length)).sum + enums.length := by
  induction enums with
  | nil => rfl
  | cons e enums ih =>
    obtain ⟨he, henums⟩ := List.forall_mem_cons.1 h
    have hone : (repeatFirst e).members.length = e.members.length + 1 := by
      obtain ⟨m, ms, hm⟩ := List.exists_cons_of_ne_nil he
      simp [repeatFirst, hm]
    simp only [List.map_cons, List.sum_cons, List.length_cons, hone, ih henums]
    omega

/-- **Grouping members by their enums loses none and makes none up.** There is one enum for each name, in the
order of first sight, with the members of that name in their order.  With repetition each enum has its first
member once more in front and all else is the same.  Either way one pass over the entries gives the enums. -/
theorem group_gathers (entries : List EncodedMember) :
    let grouped := fun dedupe => group dedupe (entries.map EncodedMember.placed)
    (∀ enums, enums = grouped true ↔ Gathers entries enums) ∧
      ((grouped true).map (·.members.length)).sum = entries.length ∧
      grouped false = (grouped true).map repeatFirst ∧
      ((grouped false).map (·.members.length)).sum = entries.length + (grouped false).length ∧
      ∀ dedupe, grouped dedupe =
        (Buckets.gather (seed dedupe) (entries.map EncodedMember.placed)).map fun b => ⟨b.1, b.2⟩ := by
  intro grouped
  have hgathers : Gathers entries (grouped true) := gathers_group entries
  have hfalse : grouped false = (grouped true).map repeatFirst := group_false _
  refine ⟨fun enums => eq_group_iff, hgathers.sum_length, hfalse, ?_,
    fun dedupe => group_eq_gather dedupe _⟩
  rw [hfalse, sum_length_repeatFirst fun e he => hgathers.members_ne_nil he, hgathers.sum_length,
    List.length_map]

end EnumRecord

end ScriptDoc
