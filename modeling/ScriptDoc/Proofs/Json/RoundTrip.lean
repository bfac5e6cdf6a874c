import ScriptDoc.Proofs.Data.Object
import ScriptDoc.Proofs.Json.Scalars
import ScriptDoc.Proofs.Json.Steps

/-!
# Reading back what is written as JSON

* `Storable room v`: JSON can hold `v` as it is, with objects and lists nested at most `room` deep;
* `Storable.readsBack`: a storable value is read back at every level of indentation, whatever may
  follow a value coming after it;
* `read_render`: so is the text of a storable value;
* `Storable.carriageReturn_not_mem`: no text of a value holds a carriage return.
-/

namespace ScriptDoc.Json

open ScriptDoc.Text Value

/-- Values that JSON can hold as they are: null, truth values, integers that are not too long, texts,
and lists and objects of such values, where the names of an object's fields are distinct. -/
inductive Storable : Nat → Value → Prop where
  | null {room : Nat} : Storable room .null
  | bool {room : Nat} (b : Bool) : Storable room (.bool b)
  | int {room : Nat} {n : Int} (h : (Nat.toDigits 10 n.natAbs).length ≤ maxDigits) :
      Storable room (.int n)
  | text {room : Nat} (s : String) : Storable room (.text s)
  | list {room : Nat} {items : List Value} (h : ∀ v ∈ items, Storable room v) :
      Storable (room + 1) (.list items)
  | object {room : Nat} {fields : List (String × Value)} (distinct : (fields.map Prod.fst).Nodup)
      (h : ∀ f ∈ fields, Storable room f.2) : Storable (room + 1) (.object fields)

/-! ### White space -/

theorem skipSpace_of_not_isSpace {c : Char} (h : isSpace c = false) (r : List Char) :
    skipSpace (c :: r) = c :: r := by
  simp [skipSpace, h]

theorem skipSpace_append {ws : List Char} (h : ∀ c ∈ ws, isSpace c = true) (s : List Char) :
    skipSpace (ws ++ s) = skipSpace s :=
  List.dropWhile_append_of_pos h

theorem blank_of_mem_lead (style : Style) (level : Nat) :
    ∀ c ∈ lead style level, c = ' ' ∨ c = '\n' := by
  intro c h
  unfold lead at h
  split at h
  · cases h
  · rcases List.mem_cons.1 h with rfl | h
    · exact .inr rfl
    · exact .inl (List.eq_of_mem_replicate h)

theorem separator_eq (style : Style) (level : Nat) :
    ∃ blanks, separator style level = ',' :: blanks ∧ ∀ c ∈ blanks, c = ' ' ∨ c = '\n' := by
  unfold separator
  split
  · exact ⟨[' '], rfl, List.forall_mem_singleton.2 (.inl rfl)⟩
  · rename_i n hn
    refine ⟨'\n' :: List.replicate (n * level) ' ', rfl, fun c hc => ?_⟩
    refine blank_of_mem_lead style level c ?_
    rw [lead, hn]
    exact hc

theorem isSpace_of_blank {c : Char} (h : c = ' ' ∨ c = '\n') : isSpace c = true := by
  rcases h with rfl | rfl <;> rfl

theorem isSpace_lead (style : Style) (level : Nat) : ∀ c ∈ lead style level, isSpace c = true :=
  fun c h => isSpace_of_blank (blank_of_mem_lead style level c h)

theorem skipSpace_lead {c : Char} (h : isSpace c = false) (style : Style) (level : Nat)
    (r : List Char) : skipSpace (lead style level ++ c :: r) = c :: r := by
  rw [skipSpace_append (isSpace_lead style level), skipSpace_of_not_isSpace h]

theorem delimited_lead {c : Char} (h : c = ']' ∨ c = '\x7d') (style : Style) (level : Nat)
    (r : List Char) : Delimited (lead style level ++ c :: r) := by
  cases hl : lead style level with
  | nil => exact delimited_cons (.inr (.inr h)) r
  | cons d ds =>
    refine delimited_cons (.inl ?_) _
    exact isSpace_lead style level d (hl ▸ List.mem_cons_self)

theorem Took.skipSpace_eq {room : Nat} {s rest : List Char} {v : Value}
    (h : Took (readValue room s) v rest) : skipSpace s = s := by
  obtain ⟨c, r, rfl, hc, -, -⟩ := h.head
  exact skipSpace_of_not_isSpace hc r

/-! ### The parts of lists and objects -/

/-- A value that is read back from its text at a level, whatever may follow a value. -/
def ReadsBack (style : Style) (room level : Nat) (v : Value) : Prop :=
  ∀ rest, Delimited rest → Took (readValue room (renderAt style level v ++ rest)) v rest

theorem ReadsBack.after_space {style : Style} {room level : Nat} {v : Value}
    (h : ReadsBack style room level v) {rest : List Char} (hd : Delimited rest) :
    Took (readValue room (skipSpace (' ' :: (renderAt style level v ++ rest)))) v rest := by
  have ht := h rest hd
  have hs : skipSpace (' ' :: (renderAt style level v ++ rest))
      = skipSpace (renderAt style level v ++ rest) := rfl
  rwa [hs, ht.skipSpace_eq]

theorem renderItems_eq (style : Style) (level : Nat) (items : List Value) :
    renderItems style level items = items.map (renderAt style level) := by
  induction items with
  | nil => rfl
  | cons v vs ih => rw [renderItems, ih, List.map_cons]

/-- The text of a field. -/
def fieldText (style : Style) (level : Nat) (f : String × Value) : List Char :=
  stringText style.ascii f.1 ++ [':', ' '] ++ renderAt style level f.2

theorem renderEntries_eq (style : Style) (level : Nat) (fields : List (String × Value)) :
    renderEntries style level (fieldEntries fields) = fields.map (fieldText style level) := by
  induction fields with
  | nil => rfl
  | cons f fs ih => rw [fieldEntries_cons, renderEntries, ih, List.map_cons]; rfl

theorem took_items {style : Style} {room level : Nat} {items : List Value} (hne : items ≠ [])
    (h : ∀ v ∈ items, ReadsBack style room level v) (acc : List Value) (outer : Nat)
    (rest : List Char) :
    Took (readItems room acc
      (List.intercalate (separator style level) (items.map (renderAt style level))
        ++ (lead style outer ++ ']' :: rest))) (acc.reverse ++ items) rest := by
  induction items generalizing acc with
  | nil => contradiction
  | cons v vs ih =>
    have hv := h v List.mem_cons_self
    cases vs with
    | nil =>
      have hd := delimited_lead (.inl rfl) style outer rest
      rw [List.map_cons, List.map_nil, List.intercalate_singleton, ← List.reverse_cons]
      exact took_item (hv _ hd) (.inl ⟨rest, skipSpace_lead rfl style outer rest, rfl, rfl⟩)
    | cons w ws =>
      have hi := ih (List.cons_ne_nil w ws) (fun u hu => h u (List.mem_cons_of_mem v hu)) (v :: acc)
      rw [List.reverse_cons, List.append_assoc, List.singleton_append] at hi
      rw [List.map_cons, List.map_cons, List.intercalate_cons_cons, ← List.map_cons,
        List.append_assoc, List.append_assoc]
      generalize List.intercalate _ _ ++ _ = tail at hi ⊢
      -- The next item is found behind the white space of the separator.
      obtain ⟨_, _, hw⟩ := hi.first_item
      obtain ⟨sp, hsep, hsp⟩ := separator_eq style level
      rw [hsep, List.cons_append]
      refine took_item (hv _ (delimited_cons (.inr (.inl rfl)) _))
        (.inr ⟨_, skipSpace_of_not_isSpace rfl _, ?_⟩)
      rwa [skipSpace_append fun c hc => isSpace_of_blank (hsp c hc), hw.skipSpace_eq]

/-- The name of a field is read up to the colon. -/
theorem readString_fieldText (style : Style) (level : Nat) (f : String × Value) (rest : List Char) :
    ∃ r, fieldText style level f ++ rest = '"' :: r ∧ ∀ opened, readString opened [] r
      = .ok (f.1.toList, ':' :: ' ' :: (renderAt style level f.2 ++ rest)) := by
  obtain ⟨r, hr, hs⟩ := readString_stringText style.ascii f.1
    (':' :: ' ' :: (renderAt style level f.2 ++ rest))
  refine ⟨r, ?_, hs⟩
  rw [fieldText, List.append_assoc, List.append_assoc]
  exact hr

theorem took_members {style : Style} {room level : Nat} {fields : List (String × Value)}
    (hne : fields ≠ []) (h : ∀ f ∈ fields, ReadsBack style room level f.2)
    (done : List (String × Value)) (distinct : ((done ++ fields).map Prod.fst).Nodup) (outer : Nat)
    (rest : List Char) :
    Took (readMembers room (fieldEntries done)
      (List.intercalate (separator style level) (fields.map (fieldText style level))
        ++ (lead style outer ++ '\x7d' :: rest))) (fieldEntries (done ++ fields)) rest := by
  induction fields generalizing done with
  | nil => contradiction
  | cons f fs ih =>
    have hv := h f List.mem_cons_self
    have hk : f.1 ∉ done.map Prod.fst := by
      rw [List.map_append, List.nodup_append] at distinct
      intro hk
      exact distinct.2.2 f.1 hk f.1 List.mem_cons_self rfl
    -- The names are distinct, so the field is added at the end and replaces none.
    have hins : insert (.text (String.ofList f.1.toList)) f.2 (fieldEntries done)
        = fieldEntries (done ++ [f]) := by
      rw [String.ofList_toList, insert_fieldEntries hk]
    cases fs with
    | nil =>
      have hd := delimited_lead (.inr rfl) style outer rest
      obtain ⟨r, hr, hs⟩ := readString_fieldText style level f (lead style outer ++ '\x7d' :: rest)
      rw [List.map_cons, List.map_nil, List.intercalate_singleton, hr, ← hins]
      exact took_member (hs _) (skipSpace_of_not_isSpace rfl _) (hv.after_space hd)
        (.inl ⟨rest, skipSpace_lead rfl style outer rest, rfl, rfl⟩)
    | cons g gs =>
      have hi := ih (List.cons_ne_nil g gs) (fun u hu => h u (List.mem_cons_of_mem f hu))
        (done ++ [f]) (by rwa [List.append_assoc, List.singleton_append])
      rw [List.append_assoc, List.singleton_append, ← hins] at hi
      rw [List.map_cons, List.map_cons, List.intercalate_cons_cons, ← List.map_cons,
        List.append_assoc, List.append_assoc]
      generalize List.intercalate _ _ ++ _ = tail at hi ⊢
      obtain ⟨t, rfl⟩ := hi.first_member
      obtain ⟨sp, hsep, hsp⟩ := separator_eq style level
      obtain ⟨r, hr, hs⟩ := readString_fieldText style level f (',' :: (sp ++ '"' :: t))
      rw [hsep, List.cons_append, hr]
      refine took_member (hs _) (skipSpace_of_not_isSpace rfl _)
        (hv.after_space (delimited_cons (.inr (.inl rfl)) _))
        (.inr ⟨_, skipSpace_of_not_isSpace rfl _, ?_⟩)
      rwa [skipSpace_append fun c hc => isSpace_of_blank (hsp c hc), skipSpace_of_not_isSpace rfl]

/-! ### Whole values -/

theorem enclosed_of_ne_nil (style : Style) (level : Nat) (opening closing : Char)
    {parts : List (List Char)} (h : parts ≠ []) (rest : List Char) :
    enclosed style (level + 1) opening closing parts ++ rest
      = opening :: (lead style (level + 1) ++ (List.intercalate (separator style (level + 1)) parts
        ++ (lead style level ++ closing :: rest))) := by
  cases parts with
  | nil => contradiction
  | cons p ps => simp [enclosed]

theorem readsBack_list {style : Style} {room level : Nat} {items : List Value}
    (h : ∀ v ∈ items, ReadsBack style room (level + 1) v) :
    ReadsBack style (room + 1) level (.list items) := by
  intro rest _
  rw [renderAt, renderItems_eq]
  by_cases hne : items = []
  · subst hne
    exact took_list_nil (skipSpace_of_not_isSpace rfl rest)
  · have ht := took_items hne h [] level rest
    rw [enclosed_of_ne_nil _ _ _ _ (by rwa [ne_eq, List.map_eq_nil_iff])]
    obtain ⟨_, _, hv⟩ := ht.first_item
    obtain ⟨c, t, hc, hs, hb, -⟩ := hv.head
    have hl := (skipSpace_append (isSpace_lead style (level + 1)) _).trans hv.skipSpace_eq
    refine took_list ?_ (by rw [hl]; exact ht)
    intro q hq
    rw [hl, hc] at hq
    cases hq
    contradiction

theorem readsBack_object {style : Style} {room level : Nat} {fields : List (String × Value)}
    (distinct : (fields.map Prod.fst).Nodup)
    (h : ∀ f ∈ fields, ReadsBack style room (level + 1) f.2) :
    ReadsBack style (room + 1) level (.object fields) := by
  intro rest _
  rw [object_eq, renderAt, renderEntries_eq]
  by_cases hne : fields = []
  · subst hne
    exact took_object_nil (skipSpace_of_not_isSpace rfl rest)
  · have ht := took_members hne h [] distinct level rest
    rw [enclosed_of_ne_nil _ _ _ _ (by rwa [ne_eq, List.map_eq_nil_iff])]
    obtain ⟨t, htext⟩ := ht.first_member
    have hl := skipSpace_append (isSpace_lead style (level + 1)) ('"' :: t)
    rw [skipSpace_of_not_isSpace rfl, ← htext] at hl
    refine took_object ?_ (by rw [hl]; exact ht)
    intro q hq
    rw [hl, htext] at hq
    cases hq

/-- **A storable value is read back at every level.** The induction is on how the value is built;
what follows it is arbitrary, so that the parts of lists and objects can be read one after the
other. -/
theorem Storable.readsBack (style : Style) {room : Nat} {v : Value} (h : Storable room v)
    (level : Nat) : ReadsBack style room level v := by
  induction h generalizing level with
  | null =>
    intro rest _
    exact took_scalar (readScalar_constant (by simp [constants]) rest)
  | bool b =>
    intro rest _
    cases b <;> exact took_scalar (readScalar_constant (by simp [constants]) rest)
  | int hn =>
    intro rest hd
    exact took_scalar (readScalar_toString hn hd)
  | @text room s =>
    intro rest _
    obtain ⟨t, ht, hr⟩ := readString_stringText style.ascii s rest
    have hs : Took (readValue room ('"' :: t)) (.text (String.ofList s.toList)) rest :=
      took_text (hr _)
    rwa [← ht, String.ofList_toList] at hs
  | list _ ih => exact readsBack_list fun v hv => ih v hv (level + 1)
  | object distinct _ ih => exact readsBack_object distinct fun f hf => ih f hf (level + 1)

theorem readAll_renderAt (style : Style) {limits : NestingLimits} {v : Value}
    (h : Storable limits.json v) : readAll (renderAt style 0 v ++ ['\n']) limits = .ok v := by
  have ht := h.readsBack style 0 ['\n'] (delimited_cons (.inl rfl) [])
  obtain ⟨c, r, hs, -, -, hb⟩ := ht.head
  have hsp : Took (readValue limits.json (skipSpace (renderAt style 0 v ++ ['\n']))) v ['\n'] := by
    rwa [ht.skipSpace_eq]
  obtain ⟨_, hsp⟩ := hsp
  unfold readAll
  split
  · rename_i heq
    rw [hs] at heq
    cases heq
    contradiction
  · rw [hsp]
    rfl

/-- **The text of a storable value is read back**, with the line feed that ends a file after it. -/
theorem read_render (style : Style) {limits : NestingLimits} {v : Value} (h : Storable limits.json v) :
    read ((render style v).toList ++ ['\n']) limits = .ok v := by
  rw [read, render, String.toList_ofList, readAll_renderAt style h]
  rfl

/-! ### The characters of a text -/

theorem forall_mem_intercalate {P : Char → Prop} {sep : List Char} {parts : List (List Char)}
    (hs : ∀ x ∈ sep, P x) (hp : ∀ part ∈ parts, ∀ x ∈ part, P x) :
    ∀ x ∈ List.intercalate sep parts, P x := by
  induction parts with
  | nil => exact List.forall_mem_nil _
  | cons p ps ih =>
    rw [List.forall_mem_cons] at hp
    cases ps with
    | nil => simpa using hp.1
    | cons q qs =>
      rw [List.intercalate_cons_cons, List.forall_mem_append, List.forall_mem_append]
      exact ⟨⟨hp.1, hs⟩, ih hp.2⟩

/-- What holds of blanks, line feeds, commas and brackets holds of all characters of a list or an object
if it does of those of its parts. -/
theorem forall_mem_enclosed {P : Char → Prop} (hblank : P ' ') (hfeed : P '\n') (hcomma : P ',')
    (style : Style) (level : Nat) {opening closing : Char} (ho : P opening) (hc : P closing)
    {parts : List (List Char)} (hp : ∀ part ∈ parts, ∀ x ∈ part, P x) :
    ∀ x ∈ enclosed style level opening closing parts, P x := by
  have hspace : ∀ x, x = ' ' ∨ x = '\n' → P x := by
    rintro x (rfl | rfl)
    · exact hblank
    · exact hfeed
  have hlead (n : Nat) : ∀ x ∈ lead style n, P x := fun x hx => hspace x (blank_of_mem_lead style n x hx)
  have hseparator : ∀ x ∈ separator style level, P x := by
    obtain ⟨blanks, heq, hblanks⟩ := separator_eq style level
    rw [heq, List.forall_mem_cons]
    exact ⟨hcomma, fun x hx => hspace x (hblanks x hx)⟩
  unfold enclosed
  split
  · simp [ho, hc]
  · simp only [List.forall_mem_append, List.forall_mem_cons]
    exact ⟨⟨⟨⟨ho, hlead level⟩, forall_mem_intercalate hseparator hp⟩, hlead _⟩, hc, List.forall_mem_nil _⟩

/-- **The text of a value holds no carriage return**, so that reading it as a text file leaves it as
it is. -/
theorem Storable.carriageReturn_not_mem (style : Style) {room : Nat} {v : Value}
    (h : Storable room v) (level : Nat) : '\r' ∉ renderAt style level v := by
  rw [← List.forall_mem_ne']
  induction h generalizing level with
  | null =>
    change ∀ x ∈ "null".toList, ¬ x = '\r'
    rw [List.forall_mem_ne']
    decide
  | bool b =>
    change ∀ x ∈ (if b then "true" else "false").toList, ¬ x = '\r'
    rw [List.forall_mem_ne']
    cases b <;> decide
  | int _ => exact List.forall_mem_ne'.2 (carriageReturn_not_mem_toString _)
  | text s => exact List.forall_mem_ne'.2 (carriageReturn_not_mem_stringText style.ascii s)
  | list _ ih =>
    rw [renderAt, renderItems_eq]
    refine forall_mem_enclosed (by decide) (by decide) (by decide) style _ (by decide) (by decide) ?_
    intro p hp
    obtain ⟨v, hv, rfl⟩ := List.mem_map.1 hp
    exact ih v hv _
  | object _ _ ih =>
    rw [object_eq, renderAt, renderEntries_eq]
    refine forall_mem_enclosed (by decide) (by decide) (by decide) style _ (by decide) (by decide) ?_
    intro p hp
    obtain ⟨f, hf, rfl⟩ := List.mem_map.1 hp
    have hk := List.forall_mem_ne'.2 (carriageReturn_not_mem_stringText style.ascii f.1)
    rw [fieldText, List.forall_mem_append, List.forall_mem_append]
    exact ⟨⟨hk, by simp⟩, ih f hf _⟩

end ScriptDoc.Json
