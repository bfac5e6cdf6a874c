import Mathlib.Tactic.SplitIfs
import ScriptDoc.Text.Utf8

/-!
# Reading back what UTF-8 writes

* `front_one`, `front_two`, `front_three`, `front_four`: the bytes of a character, followed by
  anything, start with that character;
* `pieces_encode`: the pieces of an encoded text are its characters;
* `decode_encode`, `decodeLossy_encode`: every text is read back.
-/

namespace ScriptDoc.Text.Utf8

theorem toNat_toUInt8 {n : Nat} (h : n < 256) : n.toUInt8.toNat = n :=
  UInt8.toNat_ofNat_of_lt' h

/-- Code points leave out the surrogates and end at `U+10FFFF`. -/
theorem toNat_cases (c : Char) : c.toNat < 0xD800 ∨ 0xDFFF < c.toNat ∧ c.toNat < 0x110000 := by
  have h := c.valid
  rw [UInt32.isValidChar, Nat.isValidChar] at h
  exact h

/-! ### The first character -/

theorem front_one {c : Char} (h : c.toNat < 0x80) (rest : List UInt8) :
    front c.toNat.toUInt8 rest = .char c 1 := by
  have hb : c.toNat.toUInt8.toNat = c.toNat := toNat_toUInt8 (by omega)
  have ha : announced c.toNat = 1 := by simp [announced, h]
  simp only [front, hb, ha, Char.ofNat_toNat]

theorem front_two {c : Char} (h : 0x80 ≤ c.toNat) (h' : c.toNat < 0x800) (rest : List UInt8) :
    front (0xC0 + c.toNat / 64).toUInt8 ((0x80 + c.toNat % 64).toUInt8 :: rest) = .char c 2 := by
  generalize hn : c.toNat = n at h h'
  have hb : (0xC0 + n / 64).toUInt8.toNat = 0xC0 + n / 64 := toNat_toUInt8 (by omega)
  have hb₂ : (0x80 + n % 64).toUInt8.toNat = 0x80 + n % 64 := toNat_toUInt8 (by omega)
  have ha : announced (0xC0 + n / 64) = 2 := by
    unfold announced
    rw [if_neg (by omega), if_neg (by omega), if_pos (by omega)]
  have hs : secondRange (0xC0 + n / 64) = (0x80, 0xBF) := by
    simp only [secondRange, beq_iff_eq]
    rw [if_neg (by omega), if_neg (by omega), if_neg (by omega), if_neg (by omega)]
  have hc : (0xC0 + n / 64 - 0xC0) * 64 + (0x80 + n % 64 - 0x80) = n := by omega
  have hin : (decide (0x80 ≤ 0x80 + n % 64) && decide (0x80 + n % 64 ≤ 0xBF)) = true := by
    simp only [Bool.and_eq_true, decide_eq_true_eq]
    omega
  simp only [front, hb, ha, hb₂, hs, hin, if_true, hc]
  rw [← hn, Char.ofNat_toNat]

/-- Overlong forms and surrogates are what the range of the second byte shuts out. -/
theorem second_of_three {n : Nat} (h : 0x800 ≤ n) (h' : n < 0x10000)
    (hs : n < 0xD800 ∨ 0xDFFF < n) :
    (secondRange (0xE0 + n / 4096)).1 ≤ 0x80 + n / 64 % 64 ∧
      0x80 + n / 64 % 64 ≤ (secondRange (0xE0 + n / 4096)).2 := by
  simp only [secondRange, beq_iff_eq]
  split_ifs <;> dsimp only <;> omega

theorem second_of_four {n : Nat} (h : 0x10000 ≤ n) (h' : n < 0x110000) :
    (secondRange (0xF0 + n / 262144)).1 ≤ 0x80 + n / 4096 % 64 ∧
      0x80 + n / 4096 % 64 ≤ (secondRange (0xF0 + n / 262144)).2 := by
  simp only [secondRange, beq_iff_eq]
  split_ifs <;> dsimp only <;> omega

theorem isContinuation_toUInt8 (n : Nat) : isContinuation (0x80 + n % 64).toUInt8 = true := by
  have hb : (0x80 + n % 64).toUInt8.toNat = 0x80 + n % 64 := toNat_toUInt8 (by omega)
  simp only [isContinuation, hb, Bool.and_eq_true, decide_eq_true_eq]
  omega

theorem front_three {c : Char} (h : 0x800 ≤ c.toNat) (h' : c.toNat < 0x10000)
    (rest : List UInt8) :
    front (0xE0 + c.toNat / 4096).toUInt8
      ((0x80 + c.toNat / 64 % 64).toUInt8 :: (0x80 + c.toNat % 64).toUInt8 :: rest) =
        .char c 3 := by
  have hs := second_of_three h h' ((toNat_cases c).imp_right And.left)
  generalize hn : c.toNat = n at h h' hs
  have hb : (0xE0 + n / 4096).toUInt8.toNat = 0xE0 + n / 4096 := toNat_toUInt8 (by omega)
  have hb₂ : (0x80 + n / 64 % 64).toUInt8.toNat = 0x80 + n / 64 % 64 := toNat_toUInt8 (by omega)
  have hb₃ : (0x80 + n % 64).toUInt8.toNat = 0x80 + n % 64 := toNat_toUInt8 (by omega)
  have ha : announced (0xE0 + n / 4096) = 3 := by
    unfold announced
    rw [if_neg (by omega), if_neg (by omega), if_neg (by omega), if_pos (by omega)]
  have hc : (0xE0 + n / 4096 - 0xE0) * 4096 + (0x80 + n / 64 % 64 - 0x80) * 64
      + (0x80 + n % 64 - 0x80) = n := by omega
  simp only [front, hb, ha, hb₂, hb₃, hs.1, hs.2, isContinuation_toUInt8, decide_true, Bool.and_self,
    Bool.not_true, Bool.false_eq_true, if_false, hc]
  rw [← hn, Char.ofNat_toNat]

theorem front_four {c : Char} (h : 0x10000 ≤ c.toNat) (rest : List UInt8) :
    front (0xF0 + c.toNat / 262144).toUInt8
      ((0x80 + c.toNat / 4096 % 64).toUInt8 :: (0x80 + c.toNat / 64 % 64).toUInt8 ::
        (0x80 + c.toNat % 64).toUInt8 :: rest) = .char c 4 := by
  have h' : c.toNat < 0x110000 := by
    rcases toNat_cases c with hc | hc <;> omega
  have hs := second_of_four h h'
  generalize hn : c.toNat = n at h h' hs
  have hb : (0xF0 + n / 262144).toUInt8.toNat = 0xF0 + n / 262144 := toNat_toUInt8 (by omega)
  have hb₂ : (0x80 + n / 4096 % 64).toUInt8.toNat = 0x80 + n / 4096 % 64 :=
    toNat_toUInt8 (by omega)
  have hb₃ : (0x80 + n / 64 % 64).toUInt8.toNat = 0x80 + n / 64 % 64 := toNat_toUInt8 (by omega)
  have hb₄ : (0x80 + n % 64).toUInt8.toNat = 0x80 + n % 64 := toNat_toUInt8 (by omega)
  have ha : announced (0xF0 + n / 262144) = 4 := by
    unfold announced
    rw [if_neg (by omega), if_neg (by omega), if_neg (by omega), if_neg (by omega),
      if_pos (by omega)]
  have hc : (0xF0 + n / 262144 - 0xF0) * 262144 + (0x80 + n / 4096 % 64 - 0x80) * 4096
      + (0x80 + n / 64 % 64 - 0x80) * 64 + (0x80 + n % 64 - 0x80) = n := by omega
  simp only [front, hb, ha, hb₂, hb₃, hb₄, hs.1, hs.2, isContinuation_toUInt8, decide_true,
    Bool.and_self, Bool.not_true, Bool.false_eq_true, if_false, hc]
  rw [← hn, Char.ofNat_toNat]

/-! ### Whole texts -/

/-- The bytes of a character are one piece, whatever follows. -/
theorem pieces_encodeChar (c : Char) (rest : List UInt8) :
    pieces (encodeChar c ++ rest) = .char c (encodeChar c).length :: pieces rest := by
  dsimp only [encodeChar]
  split_ifs with h₁ h₂ h₃
  · rw [List.singleton_append, pieces, front_one h₁]
    rfl
  · rw [List.cons_append, List.singleton_append, pieces, front_two (by omega) h₂]
    rfl
  · rw [List.cons_append, List.cons_append, List.singleton_append, pieces,
      front_three (by omega) h₃]
    rfl
  · rw [List.cons_append, List.cons_append, List.cons_append, List.singleton_append, pieces,
      front_four (by omega)]
    rfl

theorem pieces_encode (cs : List Char) :
    pieces (encode cs) = cs.map fun c => .char c (encodeChar c).length := by
  induction cs with
  | nil => rw [encode_nil, pieces, List.map_nil]
  | cons c cs ih => rw [encode_cons, pieces_encodeChar, ih, List.map_cons]

theorem collect_map_char (bytes : List UInt8) (start : Nat) (width : Char → Nat) (cs : List Char) :
    collect bytes start (cs.map fun c => .char c (width c)) = .ok cs := by
  induction cs generalizing start with
  | nil => rfl
  | cons c cs ih => rw [List.map_cons, collect, ih]; rfl

/-- **Every text is read back from its bytes.** -/
theorem decode_encode (cs : List Char) : decode (encode cs) = .ok cs := by
  rw [decode, pieces_encode, collect_map_char]

theorem decodeLossy_encode (cs : List Char) : decodeLossy (encode cs) = cs := by
  rw [decodeLossy, pieces_encode, List.map_map]
  exact List.map_id cs

end ScriptDoc.Text.Utf8
