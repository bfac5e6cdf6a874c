import ScriptDoc.Proofs.Yaml.Tokens
import ScriptDoc.Yaml.Node

/-!
# The nodes of a value

From the tokens of a value its nodes are read.  The graph grows by that, and in it the value stands at
the number that was the next one before.

* `Stands`: a value stands at a number of a graph, and each part of it at a higher one;
* `NodeReader.adds_node`: the tokens of a value are read as its nodes;
* `document_eq`: those of an object are read as a document with one root.
-/

namespace ScriptDoc.Yaml

open ScriptDoc.Json

/-! ### Graphs that grow -/

namespace Graph

variable {g g' g'' : Graph}

theorem size_add (x : Node) (g : Graph) : (g.add x).2.nodes.size = g.nodes.size + 1 :=
  Array.size_push x

theorem lt_size_add (x : Node) (g : Graph) : g.nodes.size < (g.add x).2.nodes.size := by
  rw [size_add]
  exact Nat.lt_succ_self _

theorem node_add_self (x : Node) (g : Graph) : (g.add x).2.node g.nodes.size = x := by
  simp [add, node]

theorem size_update (n : NodeId) (f : Node → Node) (g : Graph) :
    (g.update n f).nodes.size = g.nodes.size :=
  Array.size_modify

theorem node_update_self {n : NodeId} (h : n < g.nodes.size) (f : Node → Node) :
    (g.update n f).node n = f (g.node n) := by
  simp [update, node, Array.getD, h, Array.getElem_modify]

theorem node_update_of_ne {n m : NodeId} (h : n ≠ m) (f : Node → Node) (g : Graph) :
    (g.update n f).node m = g.node m := by
  simp only [update, node, Array.getD_eq_getD_getElem?, Array.getElem?_modify, if_neg h]

/-- A graph with more nodes: those of before stand as they are. -/
structure Grows (g g' : Graph) : Prop where
  size : g.nodes.size ≤ g'.nodes.size
  node : ∀ n < g.nodes.size, g'.node n = g.node n

theorem Grows.refl (g : Graph) : g.Grows g := ⟨Nat.le_refl _, fun _ _ => rfl⟩

theorem Grows.trans (h : g.Grows g') (h' : g'.Grows g'') : g.Grows g'' where
  size := h.size.trans h'.size
  node n hn := (h'.node n (hn.trans_le h.size)).trans (h.node n hn)

theorem grows_add (x : Node) (g : Graph) : g.Grows (g.add x).2 where
  size := (lt_size_add x g).le
  node n hn := by simp [add, Graph.node, Array.getD_eq_getD_getElem?, Array.getElem?_push, hn.ne]

end Graph

/-! ### Values in a graph -/

/-- A value stands at a node: the parts of a collection stand at nodes after it. -/
inductive Stands (g : Graph) : NodeId → Value → Prop where
  | bool {n : NodeId} {b : Bool} (hn : n < g.nodes.size)
      (h : g.node n = ⟨.bool, .scalar (Lexer.wordOf b)⟩) : Stands g n (.bool b)
  | text {n : NodeId} {s : String} (hn : n < g.nodes.size) (h : g.node n = ⟨.str, .scalar s⟩) :
      Stands g n (.text s)
  | list {n : NodeId} {ids : List NodeId} {items : List Value} (hn : n < g.nodes.size)
      (h : g.node n = ⟨.seq, .sequence ids⟩) (after : ∀ i ∈ ids, n < i)
      (length : ids.length = items.length) (parts : ∀ p ∈ ids.zip items, Stands g p.1 p.2) :
      Stands g n (.list items)
  | object {n : NodeId} {entries : List (NodeId × NodeId)} {fields : List (String × Value)}
      (hn : n < g.nodes.size) (h : g.node n = ⟨.map, .mapping entries⟩)
      (after : ∀ e ∈ entries, n < e.1 ∧ n < e.2) (length : entries.length = fields.length)
      (distinct : (fields.map Prod.fst).Nodup)
      (keys : ∀ p ∈ entries.zip fields, Stands g p.1.1 (.text p.2.1))
      (parts : ∀ p ∈ entries.zip fields, Stands g p.1.2 p.2.2) : Stands g n (.object fields)

namespace Stands

variable {g g' : Graph} {n : NodeId} {v : Value}

theorem lt_size (h : Stands g n v) : n < g.nodes.size := by
  cases h <;> assumption

/-- Only the node of a value and those after it matter. -/
theorem congr (h : Stands g n v) (hsize : g.nodes.size ≤ g'.nodes.size)
    (hnode : ∀ m, n ≤ m → m < g.nodes.size → g'.node m = g.node m) : Stands g' n v := by
  induction h with
  | bool hn h => exact .bool (hn.trans_le hsize) (by rw [hnode _ (Nat.le_refl _) hn, h])
  | text hn h => exact .text (hn.trans_le hsize) (by rw [hnode _ (Nat.le_refl _) hn, h])
  | list hn h after length _ ih =>
    refine .list (hn.trans_le hsize) (by rw [hnode _ (Nat.le_refl _) hn, h]) after length fun p hp => ?_
    have hafter := after p.1 (List.of_mem_zip hp).1
    exact ih p hp fun m hm => hnode m (hafter.le.trans hm)
  | object hn h after length distinct _ _ ihkeys ih =>
    refine .object (hn.trans_le hsize) (by rw [hnode _ (Nat.le_refl _) hn, h]) after length distinct
      (fun p hp => ?_) fun p hp => ?_
    all_goals have hafter := after p.1 (List.of_mem_zip hp).1
    · exact ihkeys p hp fun m hm => hnode m (hafter.1.le.trans hm)
    · exact ih p hp fun m hm => hnode m (hafter.2.le.trans hm)

theorem grows (h : Stands g n v) (hg : g.Grows g') : Stands g' n v :=
  h.congr hg.size fun m _ hm => hg.node m hm

end Stands

/-! ### Readers of nodes -/

/-- A token that starts a value. -/
inductive StartsValue : Token → Prop
  | scalar (text : String) (plain : Bool) : StartsValue (.scalar text plain)
  | sequence : StartsValue .flowSequenceStart
  | mapping : StartsValue .flowMappingStart

theorem valueTokens_eq_cons {room : Nat} {v : Value} (h : Common room v) :
    ∃ t tokens, valueTokens v = t :: tokens ∧ StartsValue t := by
  cases h with
  | bool => exact ⟨_, _, rfl, .scalar _ _⟩
  | text => exact ⟨_, _, rfl, .scalar _ _⟩
  | list => exact ⟨_, _, by rw [valueTokens, List.cons_append], .sequence⟩
  | object => exact ⟨_, _, by rw [Value.object_eq, valueTokens, List.cons_append], .mapping⟩

/-- Parts with commas between them, and before the first one as well if it is not the very first. -/
def joined : Bool → List (List Token) → List Token
  | _, [] => []
  | true, part :: parts => part ++ joined false parts
  | false, part :: parts => .flowEntry :: (part ++ joined false parts)

theorem joined_true (parts : List (List Token)) :
    joined true parts = List.intercalate [.flowEntry] parts := by
  cases parts with
  | nil => rfl
  | cons part parts =>
    rw [joined]
    induction parts generalizing part with
    | nil => simp [joined]
    | cons other parts ih => rw [joined, ih, List.intercalate_cons_cons, List.append_assoc]; rfl

namespace NodeReader

variable {α β : Type} {s : Surround} {failure : Option Error} {anchors : List (String × NodeId)}
  {g : Graph} {fuel : Nat}

theorem bind_of_ok {m : NodeReader α} {f : α → NodeReader β} {a : α} {p q : Progress}
    (h : m p = .ok (a, q)) : (m >>= f) p = f a q := by
  simp only [bind, StateT.bind, h, Except.bind]

/-- A reader that goes past some tokens and adds the nodes of a value, whose own one gets the next number. -/
def Adds (read : NodeReader NodeId) (tokens : List Token) (v : Value) : Prop :=
  ∀ rest failure g anchors, ∃ g' : Graph,
    read ⟨tokens ++ rest, failure, g, anchors⟩ = .ok (g.nodes.size, ⟨rest, failure, g', anchors⟩) ∧
      g.Grows g' ∧ Stands g' g.nodes.size v

theorem nodeUnless_eq {t : Token} {ends : List Token}
    (hends : ends.contains t = false) (block indentless : Bool) (tokens : List Token) :
    nodeUnless s block indentless ends (fuel + 1) ⟨t :: tokens, failure, g, anchors⟩
      = node s block indentless fuel ⟨t :: tokens, failure, g, anchors⟩ := by
  have hleft : leftOut ends ⟨t :: tokens, failure, g, anchors⟩
      = .ok (false, ⟨t :: tokens, failure, g, anchors⟩) := by
    rw [← hends]
    rfl
  rw [nodeUnless, bind_of_ok hleft]
  rfl

/-- A scalar is read as one node. -/
theorem adds_scalar {text : String} {plain : Bool} {v : Value}
    (h : ∀ {g : Graph} {n : NodeId}, n < g.nodes.size →
      g.node n = ⟨if plain then implicitTag text else .str, .scalar text⟩ → Stands g n v)
    (s : Surround) (block indentless : Bool) (fuel : Nat) :
    Adds (node s block indentless (fuel + 2)) [.scalar text plain] v := by
  intro rest failure g anchors
  exact ⟨_, rfl, Graph.grows_add _ g, h (Graph.lt_size_add _ g) (Graph.node_add_self _ g)⟩

theorem adds_text (text : String) (s : Surround) (block indentless : Bool) (fuel : Nat) :
    Adds (node s block indentless (fuel + 2)) [.scalar text false] (.text text) :=
  adds_scalar (fun hn hnode => .text hn (by simpa using hnode)) s block indentless fuel

/-- A collection is open while its parts are read, and gets its content after that. -/
theorem stands_close {g₁ g₂ : Graph} {x : Node} (h : (g.add x).2.Grows g₂) (content : NodeContent)
    (hg₁ : g₁ = g₂.update g.nodes.size fun x => { x with content }) :
    g.Grows g₁ ∧ g.nodes.size < g₁.nodes.size ∧ g₁.node g.nodes.size = ⟨x.tag, content⟩ ∧
      ∀ n v, g.nodes.size < n → Stands g₂ n v → Stands g₁ n v := by
  have hsize := (Graph.lt_size_add x g).trans_le h.size
  subst hg₁
  refine ⟨⟨?_, fun n hn => ?_⟩, ?_, ?_, fun n v hn hv => ?_⟩
  · rw [Graph.size_update]
    exact hsize.le
  · rw [Graph.node_update_of_ne hn.ne']
    exact ((Graph.grows_add x g).trans h).node n hn
  · rw [Graph.size_update]
    exact hsize
  · rw [Graph.node_update_self hsize, h.node _ (Graph.lt_size_add x g), Graph.node_add_self]
  · refine hv.congr (by rw [Graph.size_update]) fun m hm _ => ?_
    rw [Graph.node_update_of_ne (hn.trans_le hm).ne]

/-! ### Collections -/

theorem node_sequence (handles : Handles) (room : Nat) (block indentless : Bool) (tokens : List Token) :
    node ⟨handles, room + 1⟩ block indentless (fuel + 2) ⟨.flowSequenceStart :: tokens, failure, g, anchors⟩
      = (do close g.nodes.size (.sequence (← flowItems ⟨handles, room⟩ true fuel)) : NodeReader NodeId)
        ⟨tokens, failure, (g.add ⟨.seq, .sequence []⟩).2, anchors⟩ :=
  rfl

theorem node_mapping (handles : Handles) (room : Nat) (block indentless : Bool) (tokens : List Token) :
    node ⟨handles, room + 1⟩ block indentless (fuel + 2) ⟨.flowMappingStart :: tokens, failure, g, anchors⟩
      = (do close g.nodes.size (.mapping (← flowEntries ⟨handles, room⟩ true fuel)) : NodeReader NodeId)
        ⟨tokens, failure, (g.add ⟨.map, .mapping []⟩).2, anchors⟩ :=
  rfl

/-- A value whose tokens are read as its nodes, if there is fuel for them. -/
def Readable (s : Surround) (v : Value) : Prop :=
  (∃ t tokens, valueTokens v = t :: tokens ∧ StartsValue t) ∧
    ∀ fuel, 4 * (valueTokens v).length + 4 ≤ fuel → Adds (node s false false fuel) (valueTokens v) v

/-- The first token of an item is not the end, and no key. -/
theorem flowItems_eq {t : Token} (ht : StartsValue t) (first : Bool) (tokens : List Token) :
    flowItems s first (fuel + 1)
        ⟨if first then t :: tokens else .flowEntry :: t :: tokens, failure, g, anchors⟩
      = (do
          let item ← node s false false fuel
          return item :: (← flowItems s false fuel) : NodeReader (List NodeId))
        ⟨t :: tokens, failure, g, anchors⟩ := by
  cases first <;> cases ht <;> rfl

theorem flowItems_ok {items : List Value} (h : ∀ v ∈ items, Readable s v) (first : Bool) (fuel : Nat)
    (hfuel : 4 * (joined first (items.map valueTokens)).length + 5 ≤ fuel) (rest : List Token) (g : Graph) :
    ∃ ids g',
      flowItems s first fuel
          ⟨joined first (items.map valueTokens) ++ .flowSequenceEnd :: rest, failure, g, anchors⟩
        = .ok (ids, ⟨rest, failure, g', anchors⟩) ∧
      g.Grows g' ∧ (∀ i ∈ ids, g.nodes.size ≤ i) ∧ ids.length = items.length ∧
      ∀ p ∈ ids.zip items, Stands g' p.1 p.2 := by
  induction items generalizing first fuel g with
  | nil =>
    obtain ⟨fuel, rfl⟩ : ∃ k, fuel = k + 1 := ⟨fuel - 1, by omega⟩
    refine ⟨[], g, ?_, .refl g, nofun, rfl, nofun⟩
    cases first <;> rfl
  | cons v items ih =>
    rw [List.forall_mem_cons] at h
    obtain ⟨⟨⟨t, tokens, htokens, ht⟩, hread⟩, h⟩ := h
    obtain ⟨fuel, rfl⟩ : ∃ k, fuel = k + 1 := ⟨fuel - 1, by omega⟩
    have hpos : 0 < (valueTokens v).length := by rw [htokens]; exact Nat.succ_pos _
    obtain ⟨tail, htail⟩ : ∃ tail, tail = joined false (items.map valueTokens) ++ .flowSequenceEnd :: rest :=
      ⟨_, rfl⟩
    have htext : joined first ((v :: items).map valueTokens) ++ .flowSequenceEnd :: rest
        = if first then t :: (tokens ++ tail) else .flowEntry :: t :: (tokens ++ tail) := by
      cases first <;> simp [joined, htokens, htail]
    have hlength : (valueTokens v).length + (joined false (items.map valueTokens)).length
        ≤ (joined first ((v :: items).map valueTokens)).length := by
      cases first <;> simp [joined]
    obtain ⟨g₁, hv, hgrows, hstands⟩ := hread fuel (by omega) tail failure g anchors
    obtain ⟨ids, g₂, hitems, hgrows', hafter, hids, hparts⟩ := ih h false fuel (by omega) g₁
    rw [← htail] at hitems
    rw [htokens, List.cons_append] at hv
    refine ⟨g.nodes.size :: ids, g₂, ?_, hgrows.trans hgrows', ?_, congrArg (· + 1) hids, ?_⟩
    · rw [htext, flowItems_eq ht, bind_of_ok hv, bind_of_ok hitems]
      rfl
    · rw [List.forall_mem_cons]
      exact ⟨Nat.le_refl _, fun i hi => hgrows.size.trans (hafter i hi)⟩
    · rw [List.zip_cons_cons, List.forall_mem_cons]
      exact ⟨hstands.grows hgrows', hparts⟩

/-- A field starts with the mark of a key. -/
theorem flowEntries_eq (first : Bool) (tokens : List Token) :
    flowEntries s first (fuel + 1)
        ⟨if first then .key :: tokens else .flowEntry :: .key :: tokens, failure, g, anchors⟩
      = (do
          let key ← nodeUnless s false false [.value, .flowEntry, .flowMappingEnd] fuel
          let value ← entryValue s false [.flowEntry, .flowMappingEnd] fuel
          return (key, value) :: (← flowEntries s false fuel) : NodeReader (List (NodeId × NodeId)))
        ⟨tokens, failure, g, anchors⟩ := by
  cases first <;> rfl

theorem flowEntries_ok {fields : List (String × Value)} (h : ∀ f ∈ fields, Readable s f.2) (first : Bool)
    (fuel : Nat) (hfuel : 4 * (joined first (fields.map fieldTokens)).length + 5 ≤ fuel)
    (rest : List Token) (g : Graph) :
    ∃ entries g',
      flowEntries s first fuel
          ⟨joined first (fields.map fieldTokens) ++ .flowMappingEnd :: rest, failure, g, anchors⟩
        = .ok (entries, ⟨rest, failure, g', anchors⟩) ∧
      g.Grows g' ∧ (∀ e ∈ entries, g.nodes.size ≤ e.1 ∧ g.nodes.size ≤ e.2) ∧
      entries.length = fields.length ∧
      (∀ p ∈ entries.zip fields, Stands g' p.1.1 (.text p.2.1)) ∧
      ∀ p ∈ entries.zip fields, Stands g' p.1.2 p.2.2 := by
  induction fields generalizing first fuel g with
  | nil =>
    obtain ⟨fuel, rfl⟩ : ∃ k, fuel = k + 1 := ⟨fuel - 1, by omega⟩
    refine ⟨[], g, ?_, .refl g, nofun, rfl, nofun, nofun⟩
    cases first <;> rfl
  | cons f fields ih =>
    rw [List.forall_mem_cons] at h
    obtain ⟨⟨⟨t, tokens, htokens, ht⟩, hread⟩, h⟩ := h
    have hlength : (valueTokens f.2).length + 3 + (joined false (fields.map fieldTokens)).length
        ≤ (joined first ((f :: fields).map fieldTokens)).length := by
      cases first <;> simp only [List.map_cons, joined, fieldTokens, List.cons_append, List.length_cons,
        List.length_append] <;> omega
    obtain ⟨fuel, rfl⟩ : ∃ k, fuel = k + 4 := ⟨fuel - 4, by omega⟩
    obtain ⟨tail, htail⟩ :
        ∃ tail, tail = joined false (fields.map fieldTokens) ++ .flowMappingEnd :: rest := ⟨_, rfl⟩
    have htext : joined first ((f :: fields).map fieldTokens) ++ .flowMappingEnd :: rest
        = if first then .key :: .scalar f.1 false :: .value :: (t :: tokens ++ tail)
          else .flowEntry :: .key :: .scalar f.1 false :: .value :: (t :: tokens ++ tail) := by
      cases first <;> simp [joined, fieldTokens, htokens, htail]
    obtain ⟨g₁, hkey, hgrows₁, hstands₁⟩ := adds_text f.1 s false false fuel
      (.value :: (t :: tokens ++ tail)) failure g anchors
    obtain ⟨g₂, hvalue, hgrows₂, hstands₂⟩ := hread (fuel + 1) (by omega) tail failure g₁ anchors
    obtain ⟨entries, g₃, hentries, hgrows₃, hafter, hids, hkeys, hparts⟩ :=
      ih h false (fuel + 3) (by omega) g₂
    rw [← htail] at hentries
    rw [htokens] at hvalue
    have hkey : nodeUnless s false false [.value, .flowEntry, .flowMappingEnd] (fuel + 3)
        ⟨.scalar f.1 false :: .value :: (t :: tokens ++ tail), failure, g, anchors⟩ = _ :=
      (nodeUnless_eq rfl false false _).trans hkey
    have hvalue : entryValue s false [.flowEntry, .flowMappingEnd] (fuel + 3)
        ⟨.value :: (t :: tokens ++ tail), failure, g₁, anchors⟩ = _ :=
      (nodeUnless_eq (by cases ht <;> rfl) false false _).trans hvalue
    refine ⟨(g.nodes.size, g₁.nodes.size) :: entries, g₃, ?_, (hgrows₁.trans hgrows₂).trans hgrows₃, ?_,
      congrArg (· + 1) hids, ?_, ?_⟩
    · rw [htext, flowEntries_eq, bind_of_ok hkey, bind_of_ok hvalue, bind_of_ok hentries]
      rfl
    · rw [List.forall_mem_cons]
      refine ⟨⟨Nat.le_refl _, hgrows₁.size⟩, fun e he => ?_⟩
      have hsize := hgrows₁.size.trans hgrows₂.size
      exact (hafter e he).imp hsize.trans hsize.trans
    · rw [List.zip_cons_cons, List.forall_mem_cons]
      exact ⟨hstands₁.grows (hgrows₂.trans hgrows₃), hkeys⟩
    · rw [List.zip_cons_cons, List.forall_mem_cons]
      exact ⟨hstands₂.grows hgrows₃, hparts⟩

/-- **The tokens of a value are read as its nodes**, if its collections are not nested too deeply. -/
theorem adds_node {room : Nat} {v : Value} (h : Common room v) (hroom : room ≤ s.room)
    (block indentless : Bool) (hfuel : 4 * (valueTokens v).length + 4 ≤ fuel) :
    Adds (node s block indentless fuel) (valueTokens v) v := by
  obtain ⟨fuel, rfl⟩ : ∃ k, fuel = k + 2 := ⟨fuel - 2, by omega⟩
  induction h generalizing s block indentless fuel with
  | bool b =>
    refine adds_scalar (fun hn hnode => .bool hn (hnode.trans ?_)) s block indentless fuel
    cases b <;> rfl
  | @text _ text => exact adds_text text s block indentless fuel
  | @list room items h ih =>
    obtain ⟨handles, room'⟩ := s
    obtain ⟨room', rfl⟩ : ∃ k, room' = k + 1 := ⟨room' - 1, by simp only at hroom; omega⟩
    intro rest failure g anchors
    rw [valueTokens, itemTokens_eq, ← joined_true] at hfuel ⊢
    have hitems : ∀ v ∈ items, Readable ⟨handles, room'⟩ v := fun v hv => by
      refine ⟨valueTokens_eq_cons (h v hv), fun fuel hfuel => ?_⟩
      obtain ⟨fuel, rfl⟩ : ∃ k, fuel = k + 2 := ⟨fuel - 2, by omega⟩
      exact ih v hv (Nat.le_of_succ_le_succ hroom) false false fuel hfuel
    simp only [List.cons_append, List.length_cons, List.length_append, List.length_nil] at hfuel
    obtain ⟨ids, g₁, hread, hgrows, hafter, hlength, hparts⟩ :=
      flowItems_ok hitems true fuel (by omega) rest (g.add ⟨.seq, .sequence []⟩).2
    obtain ⟨hgrows, hsize, hnode, hstands⟩ := stands_close hgrows (.sequence ids) rfl
    have hopen := Graph.lt_size_add ⟨.seq, .sequence []⟩ g
    refine ⟨_, ?_, hgrows, .list hsize hnode (fun i hi => hopen.trans_le (hafter i hi)) hlength
      fun p hp => hstands _ _ (hopen.trans_le (hafter _ (List.of_mem_zip hp).1)) (hparts p hp)⟩
    rw [List.cons_append, List.cons_append, List.append_assoc, List.singleton_append, node_sequence,
      bind_of_ok hread]
    rfl
  | @object room fields distinct short h ih =>
    obtain ⟨handles, room'⟩ := s
    obtain ⟨room', rfl⟩ : ∃ k, room' = k + 1 := ⟨room' - 1, by simp only at hroom; omega⟩
    intro rest failure g anchors
    rw [Value.object_eq, valueTokens, entryTokens_eq, ← joined_true] at hfuel ⊢
    have hfields : ∀ f ∈ fields, Readable ⟨handles, room'⟩ f.2 := fun f hf => by
      refine ⟨valueTokens_eq_cons (h f hf), fun fuel hfuel => ?_⟩
      obtain ⟨fuel, rfl⟩ : ∃ k, fuel = k + 2 := ⟨fuel - 2, by omega⟩
      exact ih f hf (Nat.le_of_succ_le_succ hroom) false false fuel hfuel
    simp only [List.cons_append, List.length_cons, List.length_append, List.length_nil] at hfuel
    obtain ⟨entries, g₁, hread, hgrows, hafter, hlength, hkeys, hparts⟩ :=
      flowEntries_ok hfields true fuel (by omega) rest (g.add ⟨.map, .mapping []⟩).2
    obtain ⟨hgrows, hsize, hnode, hstands⟩ := stands_close hgrows (.mapping entries) rfl
    have hopen := Graph.lt_size_add ⟨.map, .mapping []⟩ g
    refine ⟨_, ?_, hgrows, .object hsize hnode
      (fun e he => (hafter e he).imp hopen.trans_le hopen.trans_le) hlength distinct
      (fun p hp => hstands _ _ (hopen.trans_le (hafter _ (List.of_mem_zip hp).1).1) (hkeys p hp))
      fun p hp => hstands _ _ (hopen.trans_le (hafter _ (List.of_mem_zip hp).1).2) (hparts p hp)⟩
    rw [List.cons_append, List.cons_append, List.append_assoc, List.singleton_append, node_mapping,
      bind_of_ok hread]
    rfl

/-! ### Documents -/

theorem onlyRoot_eq {t : Token} (ht : StartsValue t) {tokens : List Token} {n : NodeId} {g : Graph}
    {room : Nat}
    (h : root room defaultHandles { tokens := t :: tokens } = .ok (n, { tokens := [], graph := g })) :
    onlyRoot room { tokens := t :: tokens } = .ok (some n, { tokens := [], graph := g }) := by
  have hroot : documentRoot room t { tokens := t :: tokens } = .ok (n, { tokens := [], graph := g }) := by
    cases ht <;> exact h
  have hpeek : peek { tokens := t :: tokens } = .ok (some t, { tokens := t :: tokens }) := rfl
  rw [onlyRoot, bind_of_ok hpeek]
  exact bind_of_ok hroot

end NodeReader

/-- **The tokens of a value are a document**, and the value stands at its root. -/
theorem document_eq {room : Nat} {v : Value} (h : Common room v) :
    ∃ g, document room ⟨valueTokens v, none⟩ = .ok (some (g, 0)) ∧ Stands g 0 v := by
  obtain ⟨t, tokens, htokens, ht⟩ := valueTokens_eq_cons h
  obtain ⟨g, hread, -, hstands⟩ := NodeReader.adds_node h (s := ⟨defaultHandles, room⟩) (Nat.le_refl _) true
    false (Nat.le_refl _) [] none {} []
  rw [List.append_nil, htokens] at hread
  refine ⟨g, ?_, hstands⟩
  have hroot := NodeReader.onlyRoot_eq ht hread
  rw [document, htokens]
  simp only [hroot, bind, Except.bind]
  rfl

end ScriptDoc.Yaml
