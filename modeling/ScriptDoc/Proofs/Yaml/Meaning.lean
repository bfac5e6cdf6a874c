import ScriptDoc.Proofs.Data.Object
import ScriptDoc.Proofs.Yaml.Nodes
import ScriptDoc.Yaml.Reader

/-!
# The meaning of a value's nodes

The nodes of a value are met in rounds, each collection in the round after the one that it is a part of.
As parts stand at higher numbers, the nodes of a round have at least its number, so there are enough
rounds; and one unfolding from the last node to the first gives each node its value.

* `Construct.Sound`: what holds while the nodes are met;
* `Construct.visit_sound`, `Construct.fill_sound`: meeting a node and filling a collection keep it;
* `Graph.parts_eq`: in the end each node that was met has its part;
* `Graph.meaning_eq`: a value that stands in a graph is the meaning of its node;
* `read_renderAt`: an object that was written as JSON is read as YAML.
-/

namespace ScriptDoc.Yaml

/-! ### Parts -/

namespace Graph

/-- The text of a scalar. -/
def textAt (g : Graph) (n : NodeId) : String :=
  match (g.node n).content with
  | .scalar text => text
  | _ => ""

/-- The key and the value of an entry. -/
def textEntry (g : Graph) (e : NodeId × NodeId) : Scalar × NodeId := (.text (g.textAt e.1), e.2)

/-- The part of a node, if all keys are texts. -/
def partAt (g : Graph) (n : NodeId) : Part :=
  match g.node n with
  | ⟨.bool, .scalar text⟩ => .scalar (.bool (text == Lexer.wordOf true))
  | ⟨_, .scalar text⟩ => .scalar (.text text)
  | ⟨_, .sequence ids⟩ => .list ids
  | ⟨_, .mapping entries⟩ => .map (entries.map g.textEntry)

end Graph

theorem map_eq_map_of_zip {α β γ : Type} {as : List α} {bs : List β} {f : α → γ} {h : β → γ}
    (hlength : as.length = bs.length) (heq : ∀ p ∈ as.zip bs, f p.1 = h p.2) : as.map f = bs.map h := by
  induction as generalizing bs with
  | nil =>
    obtain rfl := List.eq_nil_of_length_eq_zero hlength.symm
    rfl
  | cons a as ih =>
    cases bs with
    | nil => cases hlength
    | cons b bs =>
      rw [List.zip_cons_cons, List.forall_mem_cons] at heq
      rw [List.map_cons, List.map_cons, heq.1, ih (Nat.succ.inj hlength) heq.2]

theorem exists_mem_zip {α β : Type} {as : List α} {bs : List β} (hlength : as.length = bs.length) {a : α}
    (ha : a ∈ as) : ∃ b, (a, b) ∈ as.zip bs := by
  rw [← List.map_fst_zip hlength.le] at ha
  obtain ⟨⟨a, b⟩, hp, rfl⟩ := List.mem_map.1 ha
  exact ⟨b, hp⟩

variable {g : Graph} {n : NodeId} {v : Value}

/-- A collection of which all parts stand in a graph. -/
def IsCollection (g : Graph) (n : NodeId) : Prop :=
  (∃ v, Stands g n v) ∧ ∀ text, (g.node n).content ≠ .scalar text

theorem Stands.textAt_eq {name : String} (h : Stands g n (.text name)) :
    g.node n = ⟨.str, .scalar name⟩ := by
  generalize hv : Value.text name = v at h
  cases h with
  | text _ h =>
    cases hv
    exact h
  | bool => cases hv
  | list => cases hv
  | object => cases hv

/-- Something is known of the value of a node. -/
def Construction.Has (s : Construction) (n : NodeId) : Prop := (s.parts.getD n none).isSome

/-- Nothing that is known is lost. -/
def Construction.Keeps (s t : Construction) : Prop := ∀ n, s.Has n → t.Has n

theorem Construction.Keeps.trans {s t u : Construction} (h : s.Keeps t) (h' : t.Keeps u) : s.Keeps u :=
  fun n hn => h' n (h n hn)

namespace Construct

variable {s : Construction} {low : Nat} {pending : List NodeId}

/-! ### Single steps -/

theorem bind_of_ok {α β : Type} {m : Construct α} {f : α → Construct β} {a : α} {s t : Construction}
    (h : m s = .ok (a, t)) : (m >>= f) s = f a t := by
  simp only [bind, StateT.bind, h, Except.bind]

theorem visit_of_has (h : s.Has n) : visit n s = .ok ((), s) := by
  have hpart : part? n s = .ok (s.parts.getD n none, s) := rfl
  obtain ⟨p, hp⟩ := Option.isSome_iff_exists.1 h
  rw [visit, bind_of_ok hpart, hp]
  rfl

theorem visit_of_none (h : s.parts.getD n none = none) :
    visit n s = (do
      match (← node n).tag.shape with
      | .scalar => setPart n (.scalar (← scalarOf n))
      | .unknown => flaw .unknownTag
      | _ =>
        setPart n .waiting
        modify fun s => { s with queue := n :: s.queue } : Construct Unit) s := by
  have hpart : part? n s = .ok (s.parts.getD n none, s) := rfl
  rw [visit, bind_of_ok hpart, h]
  rfl

theorem node_eq (n : NodeId) (s : Construction) : node n s = .ok (s.graph.node n, s) := rfl

theorem get_eq (s : Construction) : (get : Construct Construction) s = .ok (s, s) := rfl

theorem scalarText_eq {fuel : Nat} (hfuel : 0 < fuel) {tag : Tag} {text : String}
    (h : s.graph.node n = ⟨tag, .scalar text⟩) : scalarText fuel n s = .ok (text, s) := by
  obtain ⟨fuel, rfl⟩ := Nat.exists_eq_add_one_of_ne_zero hfuel.ne'
  rw [scalarText, bind_of_ok (node_eq n s), h]
  rfl

theorem scalarOf_eq (hs : 0 < s.defaults) {tag : Tag} {text : String} {x : Scalar}
    (h : s.graph.node n = ⟨tag, .scalar text⟩) (hx : scalarValue tag text = .ok x) :
    scalarOf n s = .ok (x, s) := by
  rw [scalarOf, bind_of_ok (get_eq s), bind_of_ok (scalarText_eq hs h), bind_of_ok (node_eq n s), h]
  cases tag <;> simp [liftM, monadLift, MonadLift.monadLift, StateT.lift, hx, bind, Except.bind, pure,
    Except.pure]

theorem visit_scalar (hs : 0 < s.defaults) {tag : Tag} {text : String} {x : Scalar}
    (hnone : s.parts.getD n none = none) (h : s.graph.node n = ⟨tag, .scalar text⟩) (htag : tag.shape = .scalar)
    (hx : scalarValue tag text = .ok x) : visit n s = setPart n (.scalar x) s := by
  rw [visit_of_none hnone, bind_of_ok (node_eq n s), h]
  simp only [htag]
  exact bind_of_ok (scalarOf_eq hs h hx)

theorem visit_collection (hnone : s.parts.getD n none = none)
    (h : (s.graph.node n).tag.shape = .list ∨ (s.graph.node n).tag.shape = .map) :
    visit n s = .ok ((), { s with
      parts := s.parts.setIfInBounds n (some .waiting), queue := n :: s.queue }) := by
  rw [visit_of_none hnone, bind_of_ok (node_eq n s)]
  rcases h with h | h <;> rw [h] <;> rfl

/-! ### What holds on the way -/

/-- What holds while nodes are met: a node of which something is known has its part, and something is
known of what the part leads to, or the node waits to be filled. Those in the queue have at least the
number `low`. -/
structure Sound (g : Graph) (low : Nat) (pending : List NodeId) (s : Construction) : Prop where
  graph : s.graph = g
  defaults : 0 < s.defaults
  size : s.parts.size = g.nodes.size
  settled : ∀ n p, s.parts.getD n none = some p →
    (p = g.partAt n ∧ ∀ m ∈ p.nodes, s.Has m) ∨
      (p = .waiting ∧ IsCollection g n ∧ (n ∈ s.queue ∨ n ∈ pending))
  queue : ∀ n ∈ s.queue, low ≤ n ∧ IsCollection g n

theorem getD_set {parts : Array (Option Part)} (hn : n < parts.size) (p : Part) (m : NodeId) :
    (parts.setIfInBounds n (some p)).getD m none = if n = m then some p else parts.getD m none := by
  simp only [Array.getD_eq_getD_getElem?, Array.getElem?_setIfInBounds]
  split
  · rename_i h
    subst h
    rfl
  · rfl

theorem keeps_set (hn : n < s.parts.size) (p : Part) (queue : List NodeId) :
    s.Keeps { s with parts := s.parts.setIfInBounds n (some p), queue } ∧
      Construction.Has { s with parts := s.parts.setIfInBounds n (some p), queue } n := by
  refine ⟨fun m hm => ?_, ?_⟩
  · rw [Construction.Has, getD_set hn]
    split
    · rfl
    · exact hm
  · rw [Construction.Has, getD_set hn, if_pos rfl]
    rfl

/-- A node gets its part. -/
theorem Sound.settle {p : Part} (hs : Sound g low (n :: pending) s) (hn : n < g.nodes.size)
    (hp : p = g.partAt n) (hnodes : ∀ m ∈ p.nodes, s.Has m) :
    Sound g low pending { s with parts := s.parts.setIfInBounds n (some p) } where
  graph := hs.graph
  defaults := hs.defaults
  size := by simpa using hs.size
  settled m q hq := by
    have hn : n < s.parts.size := hs.size ▸ hn
    have hkeeps := (keeps_set hn p s.queue).1
    simp only [getD_set hn] at hq
    split at hq
    · rename_i heq
      cases hq
      exact .inl ⟨heq ▸ hp, fun k hk => hkeeps k (hnodes k hk)⟩
    · rename_i hne
      refine (hs.settled m q hq).imp (And.imp_right fun h k hk => hkeeps k (h k hk)) ?_
      rintro ⟨hwaiting, hcollection, hmem⟩
      exact ⟨hwaiting, hcollection, hmem.imp_right fun h => (List.mem_cons.1 h).resolve_left (Ne.symm hne)⟩
  queue := hs.queue

theorem Sound.weaken (hs : Sound g low pending s) (n : NodeId) : Sound g low (n :: pending) s where
  graph := hs.graph
  defaults := hs.defaults
  size := hs.size
  settled m p hp := (hs.settled m p hp).imp_right
    fun h => ⟨h.1, h.2.1, h.2.2.imp_right (List.mem_cons_of_mem n)⟩
  queue := hs.queue

/-- A collection is put in the queue. -/
theorem Sound.wait (hs : Sound g low pending s) (hn : IsCollection g n) (hlow : low ≤ n) :
    Sound g low pending { s with
      parts := s.parts.setIfInBounds n (some .waiting), queue := n :: s.queue } where
  graph := hs.graph
  defaults := hs.defaults
  size := by simpa using hs.size
  settled m q hq := by
    have hsize : n < s.parts.size := by
      obtain ⟨⟨v, hv⟩, -⟩ := hn
      exact hs.size ▸ hv.lt_size
    have hkeeps := (keeps_set hsize .waiting (n :: s.queue)).1
    simp only [getD_set hsize] at hq
    split at hq
    · rename_i heq
      cases hq
      subst heq
      exact .inr ⟨rfl, hn, .inl List.mem_cons_self⟩
    · refine (hs.settled m q hq).imp (And.imp_right fun h k hk => hkeeps k (h k hk)) ?_
      rintro ⟨hwaiting, hcollection, hmem⟩
      exact ⟨hwaiting, hcollection, hmem.imp_left (List.mem_cons_of_mem n)⟩
  queue := by
    rw [List.forall_mem_cons]
    exact ⟨⟨hlow, hn⟩, hs.queue⟩

/-- Meeting a node. -/
theorem visit_sound (hs : Sound g low pending s) (h : Stands g n v) (hlow : low ≤ n) :
    ∃ t, visit n s = .ok ((), t) ∧ Sound g low pending t ∧ s.Keeps t ∧ t.Has n := by
  by_cases hhas : s.Has n
  · exact ⟨s, visit_of_has hhas, hs, fun _ h => h, hhas⟩
  have hnone : s.parts.getD n none = none := by simpa [Construction.Has] using hhas
  have hsize : n < s.parts.size := hs.size ▸ h.lt_size
  have hgraph := hs.graph
  cases h with
  | @bool _ b hn hnode =>
    have hvalue : scalarValue .bool (Lexer.wordOf b) = .ok (.bool b) := by cases b <;> decide
    refine ⟨_, visit_scalar hs.defaults hnone (hgraph ▸ hnode) rfl hvalue, (hs.weaken n).settle hn ?_ nofun,
      keeps_set hsize _ s.queue⟩
    rw [Graph.partAt, hnode]
    cases b <;> rfl
  | @text _ name hn hnode =>
    refine ⟨_, visit_scalar hs.defaults hnone (hgraph ▸ hnode) rfl rfl, (hs.weaken n).settle hn ?_ nofun,
      keeps_set hsize _ s.queue⟩
    rw [Graph.partAt, hnode]
  | list hn hnode after length parts =>
    have hcollection : IsCollection g n :=
      ⟨⟨_, .list hn hnode after length parts⟩, by rw [hnode]; nofun⟩
    exact ⟨_, visit_collection hnone (.inl (by rw [hgraph, hnode]; rfl)), hs.wait hcollection hlow,
      keeps_set hsize _ _⟩
  | object hn hnode after length distinct keys parts =>
    have hcollection : IsCollection g n :=
      ⟨⟨_, .object hn hnode after length distinct keys parts⟩, by rw [hnode]; nofun⟩
    exact ⟨_, visit_collection hnone (.inr (by rw [hgraph, hnode]; rfl)), hs.wait hcollection hlow,
      keeps_set hsize _ _⟩

theorem visits_sound {ids : List NodeId} (hs : Sound g low pending s)
    (h : ∀ i ∈ ids, low ≤ i ∧ ∃ v, Stands g i v) :
    ∃ t, ids.forM visit s = .ok ((), t) ∧ Sound g low pending t ∧ s.Keeps t ∧ ∀ i ∈ ids, t.Has i := by
  induction ids generalizing s with
  | nil => exact ⟨s, rfl, hs, fun _ h => h, nofun⟩
  | cons i ids ih =>
    rw [List.forall_mem_cons] at h
    obtain ⟨⟨hlow, v, hv⟩, h⟩ := h
    obtain ⟨t, hvisit, ht, hkeeps, hhas⟩ := visit_sound hs hv hlow
    obtain ⟨u, hvisits, hu, hkeeps', hall⟩ := ih ht h
    refine ⟨u, ?_, hu, hkeeps.trans hkeeps', ?_⟩
    · exact (bind_of_ok hvisit).trans hvisits
    · rw [List.forall_mem_cons]
      exact ⟨hkeeps' i hhas, hall⟩

/-! ### Mappings -/

/-- The entries of a mapping whose keys are texts, with a node for each. -/
structure Entry (g : Graph) (low : Nat) (e : NodeId × NodeId) : Prop where
  key : Stands g e.1 (.text (g.textAt e.1))
  value : ∃ v, Stands g e.2 v
  after : low ≤ e.1 ∧ low ≤ e.2

theorem setEntries_self {entries : List (NodeId × NodeId)} (h : (g.node n).content = .mapping entries) :
    g.setEntries n entries = g := by
  obtain ⟨nodes⟩ := g
  simp only [Graph.setEntries, Graph.update, Graph.mk.injEq]
  refine Array.ext Array.size_modify fun i _ hi => ?_
  rw [Array.getElem_modify]
  split
  · rename_i heq
    subst heq
    rw [Graph.node, Array.getD_eq_getD_getElem?, Array.getElem?_eq_getElem hi, Option.getD_some] at h
    exact congrArg (Node.mk _) h.symm
  · rfl

theorem retag_defaults {entries : List (NodeId × NodeId)} (h : ∀ e ∈ entries, (g.node e.1).tag ≠ .default) :
    entries.foldl (fun g e => if (g.node e.1).tag == .default then g.retag e.1 .str else g) g = g := by
  induction entries with
  | nil => rfl
  | cons e entries ih =>
    rw [List.forall_mem_cons] at h
    rw [List.foldl_cons, beq_eq_false_iff_ne.2 h.1]
    exact ih h.2

/-- Where all keys are texts no other entries are taken in. -/
theorem allEntries_eq {entries : List (NodeId × NodeId)} (hgraph : s.graph = g)
    (hnode : (g.node n).content = .mapping entries) (hkeys : ∀ e ∈ entries, Entry g low e) :
    allEntries n s = .ok (entries, s) := by
  have htag : ∀ e ∈ entries, (g.node e.1).tag = .str := fun e he => by rw [(hkeys e he).key.textAt_eq]
  have hentries : g.entries n = entries := by rw [Graph.entries, hnode]
  have hmerge : (g.entries n).find? g.isMerge = none := by
    rw [hentries, List.find?_eq_none]
    intro e he
    simp [Graph.isMerge, htag e he]
  have htaken : ∀ fuel, takenEntries fuel n s = .ok ([], s) := by
    rintro (_ | fuel)
    · rfl
    · rw [takenEntries]
      simp only [bind, StateT.bind, get, getThe, MonadStateOf.get, StateT.get, Except.bind, pure, Except.pure,
        hgraph, hmerge]
      rfl
  have hsame : (entries.foldl (fun g e => if (g.node e.1).tag == .default then g.retag e.1 .str else g)
      (g.setEntries n entries)) = g := by
    rw [setEntries_self hnode]
    exact retag_defaults fun e he => by rw [htag e he]; nofun
  have htake : takeIn n [] s = .ok (entries, s) := by
    obtain ⟨graph, parts, queue, merges, defaults⟩ := s
    obtain rfl : graph = g := hgraph
    have h : takeIn n [] ⟨graph, parts, queue, merges, defaults⟩ = .ok (graph.entries n,
        ⟨(graph.entries n).foldl (fun g e => if (g.node e.1).tag == .default then g.retag e.1 .str else g)
          (graph.setEntries n (graph.entries n)), parts, queue, merges, defaults⟩) := rfl
    rw [h, hentries, hsame]
  exact (bind_of_ok (htaken s.merges)).trans htake

theorem setEntry_of_new {key : Key} {value : NodeId} {found : List (Key × NodeId)}
    (h : ∀ x ∈ found, x.1.same key = false) : setEntry key value found = found ++ [(key, value)] := by
  induction found with
  | nil => rfl
  | cons x found ih =>
    rw [List.forall_mem_cons] at h
    rw [setEntry, if_neg (by simp [h.1]), ih h.2, List.cons_append]

theorem keyAt_sound {name : String} (hs : Sound g low pending s) (h : Stands g n (.text name))
    (hlow : low ≤ n) :
    ∃ k t, keyAt n s = .ok (⟨.text name, k⟩, t) ∧ Sound g low pending t ∧ s.Keeps t := by
  obtain ⟨t, hvisit, ht, hkeeps, hhas⟩ := visit_sound hs h hlow
  have hnode := h.textAt_eq
  obtain ⟨p, hp⟩ := Option.isSome_iff_exists.1 hhas
  have hpart : t.parts.getD n none = some (.scalar (.text name)) := by
    rcases ht.settled n p hp with ⟨rfl, -⟩ | ⟨-, hcollection, -⟩
    · rw [hp, Graph.partAt, hnode]
    · exact absurd (by rw [hnode]) (hcollection.2 name)
  have hpart? : part? n t = .ok (t.parts.getD n none, t) := rfl
  have htext : scalarText t.defaults n t = .ok (name, t) := scalarText_eq ht.defaults (ht.graph ▸ hnode)
  refine ⟨if isNanWord name then none else some n, t, ?_, ht, hkeeps⟩
  rw [keyAt, bind_of_ok hvisit, bind_of_ok hpart?, hpart]
  exact (bind_of_ok (get_eq t)).trans (bind_of_ok htext)

/-- Takes an entry among those that were found. -/
def findEntry (found : List (Key × NodeId)) (e : NodeId × NodeId) : Construct (List (Key × NodeId)) := do
  let key ← keyAt e.1
  visit e.2
  return setEntry key e.2 found

theorem findEntries_sound {entries : List (NodeId × NodeId)} (hs : Sound g low pending s)
    (h : ∀ e ∈ entries, Entry g low e) (done : List (NodeId × NodeId)) (found : List (Key × NodeId))
    (hdistinct : ((done ++ entries).map fun e => g.textAt e.1).Nodup)
    (hfound : (found.map fun e => (e.1.scalar, e.2)) = done.map g.textEntry) :
    ∃ all t, entries.foldlM findEntry found s = .ok (all, t) ∧
      (all.map fun e => (e.1.scalar, e.2)) = (done ++ entries).map g.textEntry ∧
      Sound g low pending t ∧ s.Keeps t ∧ ∀ e ∈ entries, t.Has e.2 := by
  induction entries generalizing s done found with
  | nil => exact ⟨found, s, rfl, by rw [List.append_nil, hfound], hs, fun _ h => h, nofun⟩
  | cons e entries ih =>
    rw [List.forall_mem_cons] at h
    obtain ⟨⟨hkey, ⟨v, hv⟩, hlow⟩, h⟩ := h
    obtain ⟨k, t, hkeyAt, ht, hkeeps₁⟩ := keyAt_sound hs hkey hlow.1
    obtain ⟨u, hvisit, hu, hkeeps₂, hhas⟩ := visit_sound ht hv hlow.2
    have hnew : ∀ x ∈ found, x.1.same ⟨.text (g.textAt e.1), k⟩ = false := by
      intro x hx
      obtain ⟨d, hd, hdx⟩ := List.mem_map.1 (hfound ▸ List.mem_map_of_mem hx)
      have hne : g.textAt d.1 ≠ g.textAt e.1 := by
        rw [List.map_append, List.nodup_append] at hdistinct
        exact hdistinct.2.2 _ (List.mem_map_of_mem hd) _ (List.mem_map_of_mem List.mem_cons_self)
      have hscalar : x.1.scalar = .text (g.textAt d.1) := (congrArg Prod.fst hdx).symm
      simp [Key.same, hscalar, hne]
    rw [List.append_cons] at hdistinct ⊢
    obtain ⟨all, w, hfold, hall, hw, hkeeps₃, hhas'⟩ := ih hu h (done ++ [e])
      (found ++ [(⟨.text (g.textAt e.1), k⟩, e.2)]) hdistinct (by simp [hfound, Graph.textEntry])
    refine ⟨all, w, ?_, hall, hw, (hkeeps₁.trans hkeeps₂).trans hkeeps₃, ?_⟩
    · have hstep : findEntry found e s = .ok (found ++ [(⟨.text (g.textAt e.1), k⟩, e.2)], u) := by
        rw [findEntry, bind_of_ok hkeyAt, bind_of_ok hvisit, setEntry_of_new hnew]
        rfl
      rw [List.foldlM_cons, bind_of_ok hstep, hfold]
    · rw [List.forall_mem_cons]
      exact ⟨hkeeps₃ _ hhas, hhas'⟩

theorem keyedEntries_sound {entries : List (NodeId × NodeId)} (hs : Sound g low pending s)
    (hnode : (g.node n).content = .mapping entries) (h : ∀ e ∈ entries, Entry g low e)
    (hdistinct : (entries.map fun e => g.textAt e.1).Nodup) :
    ∃ t, keyedEntries n s = .ok (entries.map g.textEntry, t) ∧ Sound g low pending t ∧ s.Keeps t ∧
      ∀ e ∈ entries, t.Has e.2 := by
  obtain ⟨all, t, hfold, hall, ht⟩ := findEntries_sound hs h [] [] hdistinct rfl
  refine ⟨t, ?_, ht⟩
  have heq : keyedEntries n = (do
      let found ← (← allEntries n).foldlM findEntry []
      return found.map fun e => (e.1.scalar, e.2)) := rfl
  rw [heq, bind_of_ok (allEntries_eq hs.graph hnode h), bind_of_ok hfold, hall]
  rfl

/-! ### Rounds -/

/-- Filling a collection. -/
theorem fill_sound (hs : Sound g low (n :: pending) s) (h : IsCollection g n) (hlow : low ≤ n + 1) :
    ∃ t, fill n s = .ok ((), t) ∧ Sound g low pending t ∧ s.Keeps t := by
  obtain ⟨⟨v, hv⟩, hcontent⟩ := h
  cases hv with
  | bool _ hnode => exact absurd (by rw [hnode]) (hcontent _)
  | text _ hnode => exact absurd (by rw [hnode]) (hcontent _)
  | @list _ ids items hn hnode after length parts =>
    have hids : ∀ i ∈ ids, low ≤ i ∧ ∃ v, Stands g i v := fun i hi => by
      obtain ⟨v, hp⟩ := exists_mem_zip length hi
      exact ⟨hlow.trans (after i hi), v, parts _ hp⟩
    obtain ⟨t, hvisits, ht, hkeeps, hhas⟩ := visits_sound hs hids
    have hpart : Part.list ids = g.partAt n := by rw [Graph.partAt, hnode]
    refine ⟨_, ?_, ht.settle hn hpart hhas, hkeeps.trans (keeps_set (ht.size ▸ hn) _ t.queue).1⟩
    rw [fill, bind_of_ok (node_eq n s), hs.graph, hnode]
    exact bind_of_ok hvisits
  | @object _ entries fields hn hnode after length distinct keys parts =>
    have hentries : ∀ p ∈ entries.zip fields, g.textAt p.1.1 = p.2.1 := fun p hp => by
      rw [Graph.textAt, (keys p hp).textAt_eq]
    have hentry : ∀ e ∈ entries, Entry g low e := fun e he => by
      obtain ⟨f, hp⟩ := exists_mem_zip length he
      have hkey := keys _ hp
      rw [← hentries _ hp] at hkey
      exact ⟨hkey, ⟨_, parts _ hp⟩, (after e he).imp hlow.trans hlow.trans⟩
    have hdistinct : (entries.map fun e => g.textAt e.1).Nodup := by
      rwa [map_eq_map_of_zip length hentries]
    obtain ⟨t, hkeyed, ht, hkeeps, hhas⟩ := keyedEntries_sound hs (by rw [hnode]) hentry hdistinct
    have hpart : Part.map (entries.map g.textEntry) = g.partAt n := by rw [Graph.partAt, hnode]
    refine ⟨_, ?_, ht.settle hn hpart ?_, hkeeps.trans (keeps_set (ht.size ▸ hn) _ t.queue).1⟩
    · rw [fill, bind_of_ok (node_eq n s), hs.graph, hnode]
      exact bind_of_ok hkeyed
    · intro m hm
      simp only [Part.nodes, List.map_map, List.mem_map] at hm
      obtain ⟨e, he, rfl⟩ := hm
      exact hhas e he

theorem fills_sound (hs : Sound g low pending s) (h : ∀ n ∈ pending, low ≤ n + 1 ∧ IsCollection g n) :
    ∃ t, pending.forM fill s = .ok ((), t) ∧ Sound g low [] t ∧ s.Keeps t := by
  induction pending generalizing s with
  | nil => exact ⟨s, rfl, hs, fun _ h => h⟩
  | cons n pending ih =>
    rw [List.forall_mem_cons] at h
    obtain ⟨t, hfill, ht, hkeeps⟩ := fill_sound hs h.1.2 h.1.1
    obtain ⟨u, hfills, hu, hkeeps'⟩ := ih ht h.2
    exact ⟨u, (bind_of_ok hfill).trans hfills, hu, hkeeps.trans hkeeps'⟩

/-- All rounds. The nodes of a round have at least its number. -/
theorem fillQueue_sound (fuel : Nat) (hs : Sound g low [] s) (hfuel : g.nodes.size < low + fuel) :
    ∃ t low', fillQueue fuel s = .ok ((), t) ∧ Sound g low' [] t ∧ t.queue = [] ∧ s.Keeps t := by
  induction fuel generalizing low s with
  | zero =>
    refine ⟨s, low, rfl, hs, ?_, fun _ h => h⟩
    rw [List.eq_nil_iff_forall_not_mem]
    intro n hn
    obtain ⟨hlow, ⟨v, hv⟩, -⟩ := hs.queue n hn
    exact absurd (hlow.trans_lt hv.lt_size) (by omega)
  | succ fuel ih =>
    by_cases hqueue : s.queue = []
    · refine ⟨s, low, ?_, hs, hqueue, fun _ h => h⟩
      simp only [fillQueue, bind, StateT.bind, get, getThe, MonadStateOf.get, StateT.get, Except.bind,
        pure, Except.pure, hqueue]
      rfl
    · have hround : Sound g (low + 1) s.queue.reverse { s with queue := [] } := by
        refine ⟨hs.graph, hs.defaults, hs.size, fun n p hp => (hs.settled n p hp).imp_right ?_, nofun⟩
        rintro ⟨hwaiting, hcollection, hmem⟩
        exact ⟨hwaiting, hcollection, .inr (by simpa using hmem)⟩
      obtain ⟨t, hfills, ht, hkeeps⟩ := fills_sound hround fun n hn =>
        (hs.queue n (List.mem_reverse.1 hn)).imp_left Nat.succ_le_succ
      obtain ⟨u, low', hrounds, hu, hempty, hkeeps'⟩ := ih ht (by omega)
      refine ⟨u, low', ?_, hu, hempty, Construction.Keeps.trans hkeeps hkeeps'⟩
      have hstep : fillQueue (fuel + 1) s = (do s.queue.reverse.forM fill; fillQueue fuel : Construct Unit)
          { s with queue := [] } := by
        simp only [fillQueue, bind, StateT.bind, get, getThe, MonadStateOf.get, StateT.get, Except.bind,
          pure, Except.pure, List.isEmpty_reverse, List.isEmpty_iff, hqueue, if_false]
        rfl
      rw [hstep, bind_of_ok hfills, hrounds]

end Construct

/-! ### Unfolding -/

/-- In the end each node that was met has its part, and all that the part leads to was met as well. -/
theorem Graph.parts_eq {defaults : Nat} (hdefaults : 0 < defaults) {root : NodeId} (h : Stands g root v) :
    ∃ parts, g.parts defaults root = .ok parts ∧ parts.size = g.nodes.size ∧ (parts.getD root none).isSome ∧
      ∀ n p, parts.getD n none = some p →
        p = g.partAt n ∧ ∀ m ∈ p.nodes, (parts.getD m none).isSome := by
  have hstart : Construct.Sound g 0 []
      ⟨g, Array.replicate g.nodes.size none, [], g.mergeCount, defaults⟩ := by
    refine ⟨rfl, hdefaults, Array.size_replicate, fun n p hp => ?_, nofun⟩
    have hnone : (Array.replicate g.nodes.size (none : Option Part)).getD n none = none := by
      rw [Array.getD_eq_getD_getElem?, Array.getElem?_replicate]
      split <;> rfl
    rw [hnone] at hp
    cases hp
  obtain ⟨s, hvisit, hs, -, hhas⟩ := Construct.visit_sound hstart h (Nat.zero_le _)
  obtain ⟨t, low, hfill, ht, hempty, hkeeps⟩ :=
    Construct.fillQueue_sound (g.nodes.size + 1) hs (by omega)
  refine ⟨t.parts, ?_, ht.size, hkeeps root hhas, fun n p hp => ?_⟩
  · have hrun : (do Construct.visit root; Construct.fillQueue (g.nodes.size + 1) : Construct Unit)
        ⟨g, Array.replicate g.nodes.size none, [], g.mergeCount, defaults⟩ = .ok ((), t) :=
      (Construct.bind_of_ok hvisit).trans hfill
    rw [Graph.parts, hrun]
    rfl
  · refine (ht.settled n p hp).resolve_right ?_
    rintro ⟨-, -, hmem⟩
    rcases hmem with hmem | hmem
    · rw [hempty] at hmem
      cases hmem
    · cases hmem

theorem Stands.lt_of_mem_nodes (h : Stands g n v) {m : NodeId} (hm : m ∈ (g.partAt n).nodes) : n < m := by
  cases h with
  | @bool _ b _ hnode =>
    rw [Graph.partAt, hnode] at hm
    cases hm
  | text _ hnode =>
    rw [Graph.partAt, hnode] at hm
    cases hm
  | list _ hnode after =>
    rw [Graph.partAt, hnode] at hm
    exact after m hm
  | object _ hnode after =>
    rw [Graph.partAt, hnode] at hm
    simp only [Part.nodes, List.map_map, List.mem_map] at hm
    obtain ⟨e, he, rfl⟩ := hm
    exact (after e he).2

theorem Part.meaning_of_known {p : Part} {known : Array Meaning}
    (hvalue : p.value (fun n => (known.getD n .unknown).value) = v)
    (hnodes : ∀ m ∈ p.nodes, (known.getD m .unknown).endless = false) : p.meaning known = ⟨v, false⟩ := by
  rw [Part.meaning, hvalue]
  congr 1
  rw [List.any_eq_false]
  intro m hm
  rw [hnodes m hm]
  exact Bool.false_ne_true

/-- The meaning of the part of a node, if that of each node it leads to is known. -/
theorem Stands.meaning_partAt (h : Stands g n v) {known : Array Meaning}
    (hknown : ∀ m ∈ (g.partAt n).nodes, ∀ w, Stands g m w → known.getD m .unknown = ⟨w, false⟩) :
    (g.partAt n).meaning known = ⟨v, false⟩ := by
  cases h with
  | @bool _ b hn hnode =>
    rw [Graph.partAt, hnode]
    cases b <;> rfl
  | text hn hnode =>
    rw [Graph.partAt, hnode]
    rfl
  | @list _ ids items hn hnode after length parts =>
    rw [Graph.partAt, hnode] at hknown ⊢
    have hparts : ∀ p ∈ ids.zip items, known.getD p.1 .unknown = ⟨p.2, false⟩ := fun p hp =>
      hknown _ (List.of_mem_zip hp).1 _ (parts p hp)
    refine Part.meaning_of_known ?_ fun m hm => ?_
    · have hvalues := map_eq_map_of_zip (f := fun i => (known.getD i .unknown).value) (h := id) length
        fun p hp => by rw [hparts p hp, id_eq]
      rw [Part.value, hvalues, List.map_id]
    · obtain ⟨w, hp⟩ := exists_mem_zip length hm
      rw [hparts _ hp]
  | @object _ entries fields hn hnode after length distinct keys parts =>
    rw [Graph.partAt, hnode] at hknown ⊢
    have hparts : ∀ p ∈ entries.zip fields, known.getD p.1.2 .unknown = ⟨p.2.2, false⟩ := fun p hp =>
      hknown _ (by simpa [Part.nodes, Graph.textEntry] using ⟨_, (List.of_mem_zip hp).1⟩) _ (parts p hp)
    refine Part.meaning_of_known ?_ fun m hm => ?_
    · have hvalues := map_eq_map_of_zip (h := fun f : String × Value => (Scalar.text f.1, f.2))
        (f := fun e => (Scalar.text (g.textAt e.1), (known.getD e.2 .unknown).value)) length
        fun p hp => by rw [hparts p hp, Graph.textAt, (keys p hp).textAt_eq]
      rw [Part.value, List.map_map, Value.object, ← hvalues]
      rfl
    · simp only [Part.nodes, List.map_map, List.mem_map] at hm
      obtain ⟨e, he, rfl⟩ := hm
      obtain ⟨f, hp⟩ := exists_mem_zip length he
      exact congrArg Meaning.endless (hparts _ hp)

/-- Unfolds one part. -/
def unfoldPart (parts : Array (Option Part)) (known : Array Meaning) (n : NodeId) : Array Meaning :=
  match parts.getD n none with
  | some p => known.setIfInBounds n (p.meaning known)
  | none => known

theorem size_unfoldPart (parts : Array (Option Part)) (known : Array Meaning) (n : NodeId) :
    (unfoldPart parts known n).size = known.size := by
  unfold unfoldPart
  split
  · exact Array.size_setIfInBounds
  · rfl

theorem size_foldl_unfoldPart (parts : Array (Option Part)) (ns : List NodeId) (known : Array Meaning) :
    (ns.foldl (unfoldPart parts) known).size = known.size := by
  induction ns generalizing known with
  | nil => rfl
  | cons n ns ih => rw [List.foldl_cons, ih, size_unfoldPart]

/-- The nodes after those that are left have their values already. -/
theorem foldl_unfoldPart {parts : Array (Option Part)} (hparts : ∀ n p, parts.getD n none = some p →
      p = g.partAt n ∧ ∀ m ∈ p.nodes, (parts.getD m none).isSome) (k : Nat) {known : Array Meaning}
    (hsize : known.size = parts.size)
    (hknown : ∀ n v, k ≤ n → (parts.getD n none).isSome → Stands g n v →
      known.getD n .unknown = ⟨v, false⟩)
    (hn : (parts.getD n none).isSome) (h : Stands g n v) :
    ((List.range k).reverse.foldl (unfoldPart parts) known).getD n .unknown = ⟨v, false⟩ := by
  induction k generalizing known with
  | zero => exact hknown n v (Nat.zero_le n) hn h
  | succ k ih =>
    rw [List.range_succ, List.reverse_append, List.reverse_singleton, List.singleton_append, List.foldl_cons]
    refine ih ((size_unfoldPart parts known k).trans hsize) fun m w hkm hm hw => ?_
    rcases hkm.eq_or_lt with rfl | hlt
    · obtain ⟨p, hp⟩ := Option.isSome_iff_exists.1 hm
      obtain ⟨rfl, hnodes⟩ := hparts k p hp
      have hk : k < known.size := by
        rw [hsize]
        by_contra hge
        rw [Array.getD_eq_getD_getElem?, Array.getElem?_eq_none (Nat.le_of_not_lt hge)] at hp
        cases hp
      have hmeaning := hw.meaning_partAt fun m hm u hu =>
        hknown m u (hw.lt_of_mem_nodes hm) (hnodes m hm) hu
      simp [unfoldPart, hp, hmeaning, Array.getD_eq_getD_getElem?, hk]
    · have hsame : (unfoldPart parts known k).getD m .unknown = known.getD m .unknown := by
        unfold unfoldPart
        split
        · rw [Array.getD_eq_getD_getElem?, Array.getElem?_setIfInBounds_ne hlt.ne,
            Array.getD_eq_getD_getElem?]
        · rfl
      rw [hsame]
      exact hknown m w hlt hm hw

theorem size_repeat_unfoldParts (parts : Array (Option Part)) (rounds : Nat) (known : Array Meaning) :
    (Nat.repeat (unfoldParts parts) rounds known).size = known.size := by
  induction rounds with
  | zero => rfl
  | succ rounds ih => exact (size_foldl_unfoldPart parts _ _).trans ih

/-- **A value that stands in a graph is the meaning of its node.** The last unfolding alone gives it,
whatever was known before. -/
theorem Graph.meaning_eq {defaults : Nat} (hdefaults : 0 < defaults) {root : NodeId}
    (h : Stands g root v) : g.meaning defaults root = .ok ⟨v, false⟩ := by
  obtain ⟨parts, hrun, -, hroot, hparts⟩ := g.parts_eq hdefaults h
  have hsize : ∀ rounds, (Nat.repeat (unfoldParts parts) rounds
      (Array.replicate parts.size .unknown)).size = parts.size := fun rounds =>
    (size_repeat_unfoldParts parts rounds _).trans Array.size_replicate
  have hlast := foldl_unfoldPart hparts parts.size (hsize (stepsBack parts + cutDepth))
    (fun n v hn hpart => by
      rw [Array.getD_eq_getD_getElem?, Array.getElem?_eq_none hn] at hpart
      cases hpart) hroot h
  rw [Graph.meaning, hrun]
  simp only [bind, Except.bind, pure, Except.pure, Nat.add_right_comm _ 1 cutDepth]
  exact congrArg Except.ok hlast

/-! ### Whole texts -/

theorem checkPrintable_eq_ok {text : List Char} (h : ∀ c ∈ text, isPrintable c = true) :
    checkPrintable text = .ok () := by
  have hnone : text.find? (fun c => !isPrintable c) = none := by
    rw [List.find?_eq_none]
    intro c hc
    simp [h c hc]
  rw [checkPrintable, hnone]

/-- **An object that was written as JSON is read as YAML**, if both languages read its texts alike. -/
theorem read_renderAt {style : Json.Style} (hstyle : style.ascii = false) {limits : NestingLimits}
    {fields : List (String × Value)} (h : Common limits.yaml (.object fields)) :
    read (Json.renderAt style 0 (.object fields) ++ ['\n']) limits = .ok ⟨.object fields, false⟩ := by
  obtain ⟨g, hdocument, hstands⟩ := document_eq h
  have hprintable : ∀ c ∈ Json.renderAt style 0 (.object fields) ++ ['\n'], isPrintable c = true := by
    rw [List.forall_mem_append]
    refine ⟨fun c hc => ?_, List.forall_mem_singleton.2 rfl⟩
    have hc := h.isVerbatim hstyle 0 c hc
    simp only [isVerbatim, Bool.and_eq_true] at hc
    exact hc.1.1
  rw [read, checkPrintable_eq_ok hprintable, tokenStream_eq hstyle h, hdocument]
  exact Graph.meaning_eq limits.defaults_pos hstands

end ScriptDoc.Yaml
