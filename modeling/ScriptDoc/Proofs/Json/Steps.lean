import ScriptDoc.Json.Reader

/-!
# The steps of reading JSON

`Took x a rest` says that a reader has taken `a` from the front of its text and left `rest`.  For
each way in which a value, an item of a list or a member of an object can be read there is one lemma
that says so; `readValue`, `readItems` and `readMembers` are not opened anywhere else.

* `took_text`, `took_scalar`, `took_list`, `took_object` and their empty cases;
* `took_item`, `took_member`: one part of a list or object and what comes after it;
* `Took.value_cases`, `Took.items_cases`, `Took.members_cases`: how what was taken can have been read;
* `Took.head`: what a value starts with.
-/

namespace ScriptDoc.Json

/-- A reader has taken `a` from the front of its text and left `rest`. -/
def Took {α : Type} {s : List Char} (x : Except Fault (Taken α s)) (a : α) (rest : List Char) :
    Prop :=
  ∃ h, x = .ok ⟨a, rest, h⟩

/-! ### Values -/

theorem took_text {room : Nat} {r t q : List Char}
    (h : readString (r.length + 1) [] r = .ok (t, q)) :
    Took (readValue room ('"' :: r)) (.text (String.ofList t)) q := by
  have hq := readString_shorter h
  refine ⟨by simp only [List.length_cons]; omega, ?_⟩
  rw [readValue]
  split
  · rename_i hf
    rw [List.length_cons, h] at hf
    cases hf
  · rename_i ht
    rw [List.length_cons, h] at ht
    cases ht
    rfl

theorem took_scalar {room : Nat} {s q : List Char} {x : Scalar} (h : readScalar s = .ok (x, q)) :
    Took (readValue room s) (.scalar x) q := by
  refine ⟨readScalar_shorter h, ?_⟩
  unfold readValue
  split
  -- The constants and numbers start with none of the characters that start the other values.
  iterate 4 cases h
  split
  · rename_i hf
    rw [h] at hf
    cases hf
  · rename_i hx
    rw [h] at hx
    cases hx
    rfl

theorem took_list_nil {room : Nat} {r q : List Char} (h : skipSpace r = ']' :: q) :
    Took (readValue (room + 1) ('[' :: r)) (.list []) q := by
  have hl := length_skipSpace r
  rw [h, List.length_cons] at hl
  refine ⟨by simp only [List.length_cons]; omega, ?_⟩
  rw [readValue]
  simp only [Nat.add_one_ne_zero, beq_iff_eq, if_false]
  split
  · rename_i hq
    rw [h] at hq
    cases hq
    rfl
  · rename_i hq
    exact absurd h (hq q)

theorem took_list {room : Nat} {r t : List Char} {items : List Value}
    (h : ∀ q, skipSpace r ≠ ']' :: q) (hi : Took (readItems room [] (skipSpace r)) items t) :
    Took (readValue (room + 1) ('[' :: r)) (.list items) t := by
  obtain ⟨ht, hi⟩ := hi
  have hl := length_skipSpace r
  refine ⟨by simp only [List.length_cons]; omega, ?_⟩
  rw [readValue]
  simp only [Nat.add_one_ne_zero, beq_iff_eq, if_false, Nat.add_one_sub_one, hi]

theorem took_object_nil {room : Nat} {r q : List Char} (h : skipSpace r = '\x7d' :: q) :
    Took (readValue (room + 1) ('\x7b' :: r)) (.map []) q := by
  have hl := length_skipSpace r
  rw [h, List.length_cons] at hl
  refine ⟨by simp only [List.length_cons]; omega, ?_⟩
  rw [readValue]
  simp only [Nat.add_one_ne_zero, beq_iff_eq, if_false]
  split
  · rename_i hq
    rw [h] at hq
    cases hq
    rfl
  · rename_i hq
    exact absurd h (hq q)

theorem took_object {room : Nat} {r t : List Char} {entries : List (Scalar × Value)}
    (h : ∀ q, skipSpace r ≠ '\x7d' :: q)
    (he : Took (readMembers room [] (skipSpace r)) entries t) :
    Took (readValue (room + 1) ('\x7b' :: r)) (.map entries) t := by
  obtain ⟨ht, he⟩ := he
  have hl := length_skipSpace r
  refine ⟨by simp only [List.length_cons]; omega, ?_⟩
  rw [readValue]
  simp only [Nat.add_one_ne_zero, beq_iff_eq, if_false, Nat.add_one_sub_one, he]

/-! ### Items of a list -/

/-- After an item comes the closing bracket, or a comma and further items. -/
theorem took_item {room : Nat} {s r t : List Char} {v : Value} {acc items : List Value}
    (hv : Took (readValue room s) v r)
    (hnext : (∃ q, skipSpace r = ']' :: q ∧ items = (v :: acc).reverse ∧ t = q) ∨
      ∃ q, skipSpace r = ',' :: q ∧ Took (readItems room (v :: acc) (skipSpace q)) items t) :
    Took (readItems room acc s) items t := by
  obtain ⟨hs, hv⟩ := hv
  have hl := length_skipSpace r
  rcases hnext with ⟨q, hr, rfl, rfl⟩ | ⟨q, hr, ht, hi⟩
  · rw [hr, List.length_cons] at hl
    refine ⟨by omega, ?_⟩
    rw [readItems, hv]
    dsimp only
    split <;> simp_all
  · have hq := length_skipSpace q
    rw [hr, List.length_cons] at hl
    refine ⟨by omega, ?_⟩
    rw [readItems, hv]
    dsimp only
    split
    · simp_all
    · rename_i hr'
      rw [hr] at hr'
      cases hr'
      rw [hi]
    · simp_all

/-! ### Members of an object -/

/-- After a name, a colon and a value comes the closing brace, or a comma and further members. -/
theorem took_member {room : Nat} {r r₁ r₂ r₃ t key : List Char} {v : Value}
    {acc entries : List (Scalar × Value)}
    (hk : readString (r.length + 1) [] r = .ok (key, r₁)) (h₁ : skipSpace r₁ = ':' :: r₂)
    (hv : Took (readValue room (skipSpace r₂)) v r₃)
    (hnext : (∃ q, skipSpace r₃ = '\x7d' :: q ∧
        entries = Value.insert (.text (String.ofList key)) v acc ∧ t = q) ∨
      ∃ q, skipSpace r₃ = ',' :: q ∧
        Took (readMembers room (Value.insert (.text (String.ofList key)) v acc) (skipSpace q))
          entries t) :
    Took (readMembers room acc ('"' :: r)) entries t := by
  obtain ⟨hs, hv⟩ := hv
  have hshort : t.length < ('"' :: r).length := by
    have hl := readString_shorter hk
    have hl₁ := length_skipSpace r₁
    have hl₂ := length_skipSpace r₂
    have hl₃ := length_skipSpace r₃
    rw [h₁, List.length_cons] at hl₁
    rw [List.length_cons]
    rcases hnext with ⟨q, h₃, -, rfl⟩ | ⟨q, h₃, ht, -⟩
    · rw [h₃, List.length_cons] at hl₃
      omega
    · have hq := length_skipSpace q
      rw [h₃, List.length_cons] at hl₃
      omega
  refine ⟨hshort, ?_⟩
  rw [readMembers]
  split
  · rename_i hk'
    rw [List.length_cons, hk] at hk'
    cases hk'
  rename_i hk'
  rw [List.length_cons, hk] at hk'
  cases hk'
  split
  · rename_i h₁'
    rw [h₁] at h₁'
    cases h₁'
    rw [hv]
    dsimp only
    rcases hnext with ⟨q, h₃, rfl, rfl⟩ | ⟨q, h₃, ht, he⟩
    · split <;> simp_all
    · split
      · simp_all
      · rename_i h₃'
        rw [h₃] at h₃'
        cases h₃'
        rw [he]
      · simp_all
  · simp_all

/-! ### Back from what was read -/

/-- A value is a scalar, or a list or an object whose parts, if there are any, were read from further on. -/
theorem Took.value_cases {room : Nat} {s rest : List Char} {v : Value}
    (h : Took (readValue room s) v rest) :
    (∃ x, v = .scalar x) ∨
    (∃ items, v = .list items ∧ (items = [] ∨
      ∃ room' s' rest', s'.length < s.length ∧ Took (readItems room' [] s') items rest')) ∨
    ∃ entries, v = .map entries ∧ (entries = [] ∨
      ∃ room' s' rest', s'.length < s.length ∧ Took (readMembers room' [] s') entries rest') := by
  obtain ⟨hrest, h⟩ := h
  unfold readValue at h
  -- the end of the text, then a text, an object, a list, and the other scalars
  split at h
  · cases h
  · split at h
    · cases h
    · cases h
      exact .inl ⟨_, rfl⟩
  · rename_i r
    have hskip := length_skipSpace r
    split at h
    · cases h
    · split at h
      · cases h
        exact .inr (.inr ⟨[], rfl, .inl rfl⟩)
      · split at h
        · cases h
        · rename_i entries t ht hr
          cases h
          exact .inr (.inr ⟨entries, rfl, .inr ⟨_, _, _, Nat.lt_succ_of_le hskip, ht, hr⟩⟩)
  · rename_i r
    have hskip := length_skipSpace r
    split at h
    · cases h
    · split at h
      · cases h
        exact .inr (.inl ⟨[], rfl, .inl rfl⟩)
      · split at h
        · cases h
        · rename_i items t ht hr
          cases h
          exact .inr (.inl ⟨items, rfl, .inr ⟨_, _, _, Nat.lt_succ_of_le hskip, ht, hr⟩⟩)
  · split at h
    · cases h
    · cases h
      exact .inl ⟨_, rfl⟩

/-- Items are those before, one more, and further ones that were read from further on. -/
theorem Took.items_cases {room : Nat} {s rest : List Char} {acc items : List Value}
    (h : Took (readItems room acc s) items rest) :
    ∃ v r, Took (readValue room s) v r ∧ (items = (v :: acc).reverse ∨
      ∃ s' rest', s'.length < s.length ∧ Took (readItems room (v :: acc) s') items rest') := by
  obtain ⟨hrest, h⟩ := h
  unfold readItems at h
  split at h
  · cases h
  · rename_i v r hr hv
    split at h
    · cases h
      exact ⟨v, r, ⟨hr, hv⟩, .inl rfl⟩
    · rename_i q hq
      have hlt : (skipSpace q).length < s.length := by
        have hr' := length_skipSpace r
        have hq' := length_skipSpace q
        rw [hq, List.length_cons] at hr'
        omega
      split at h
      · cases h
      · rename_i items t ht hi
        cases h
        exact ⟨v, r, ⟨hr, hv⟩, .inr ⟨_, _, hlt, ht, hi⟩⟩
    · cases h

/-- Members are those before, one more, and further ones, both read from further on. -/
theorem Took.members_cases {room : Nat} {s rest : List Char} {acc entries : List (Scalar × Value)}
    (h : Took (readMembers room acc s) entries rest) :
    ∃ name v s₁ r, s₁.length < s.length ∧ Took (readValue room s₁) v r ∧
      (entries = Value.insert (.text name) v acc ∨
        ∃ s₂ rest', s₂.length < s.length ∧
          Took (readMembers room (Value.insert (.text name) v acc) s₂) entries rest') := by
  obtain ⟨hrest, h⟩ := h
  unfold readMembers at h
  split at h
  · rename_i r
    split at h
    · cases h
    · rename_i key r₁ hk
      have hlt := readString_shorter hk
      have hskip := length_skipSpace r₁
      split at h
      · rename_i r₂ h₁
        rw [h₁, List.length_cons] at hskip
        have hlt₂ : (skipSpace r₂).length < ('"' :: r).length := by
          have hskip₂ := length_skipSpace r₂
          rw [List.length_cons]
          omega
        split at h
        · cases h
        · rename_i v r₃ h₃ hv
          refine ⟨String.ofList key, v, _, r₃, hlt₂, ⟨h₃, hv⟩, ?_⟩
          dsimp only at h
          have hskip₃ := length_skipSpace r₃
          split at h
          · cases h
            exact .inl rfl
          · rename_i q h₄
            rw [h₄, List.length_cons] at hskip₃
            split at h
            · cases h
            · rename_i all t ht hm
              cases h
              have hskip₄ := length_skipSpace q
              exact .inr ⟨_, _, by omega, ht, hm⟩
          · cases h
      · cases h
  · cases h

/-! ### What a value starts with -/

/-- No value starts with white space, with a closing bracket or with a byte order mark. -/
theorem readValue_error {c : Char} (h : isSpace c = true ∨ c = ']' ∨ c = '\uFEFF') (room : Nat)
    (r : List Char) : ∃ f, readValue room (c :: r) = .error f := by
  have hc : c = ' ' ∨ c = '\t' ∨ c = '\n' ∨ c = '\r' ∨ c = ']' ∨ c = '\uFEFF' := by
    simpa [isSpace, or_assoc] using h
  have hs : ∃ f, readScalar (c :: r) = .error f := by
    rcases hc with rfl | rfl | rfl | rfl | rfl | rfl <;> exact ⟨_, rfl⟩
  obtain ⟨f, hf⟩ := hs
  refine ⟨f, ?_⟩
  rw [readValue]
  · split
    · rename_i hf'
      rw [hf] at hf'
      cases hf'
      rfl
    · rename_i hx
      rw [hf] at hx
      cases hx
  all_goals
    intro heq
    cases heq
    rcases hc with hc | hc | hc | hc | hc | hc <;> exact absurd hc (by decide)

theorem Took.head {room : Nat} {s rest : List Char} {v : Value}
    (h : Took (readValue room s) v rest) :
    ∃ c r, s = c :: r ∧ isSpace c = false ∧ c ≠ ']' ∧ c ≠ '\uFEFF' := by
  obtain ⟨hs, h⟩ := h
  cases s with
  | nil => exact absurd hs (Nat.not_lt_zero _)
  | cons c r =>
    have hc : ¬ (isSpace c = true ∨ c = ']' ∨ c = '\uFEFF') := by
      intro hc
      obtain ⟨f, hf⟩ := readValue_error hc room r
      rw [hf] at h
      cases h
    simp only [not_or, Bool.not_eq_true] at hc
    exact ⟨c, r, rfl, hc⟩

theorem Took.first_item {room : Nat} {acc items : List Value} {s rest : List Char}
    (h : Took (readItems room acc s) items rest) :
    ∃ v r, Took (readValue room s) v r := by
  obtain ⟨v, r, hv, -⟩ := h.items_cases
  exact ⟨v, r, hv⟩

theorem Took.first_member {room : Nat} {acc entries : List (Scalar × Value)} {s rest : List Char}
    (h : Took (readMembers room acc s) entries rest) : ∃ r, s = '"' :: r := by
  obtain ⟨_, h⟩ := h
  unfold readMembers at h
  split at h
  · exact ⟨_, rfl⟩
  · cases h

end ScriptDoc.Json
