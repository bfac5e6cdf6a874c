import ScriptDoc.Json.Reader
import ScriptDoc.Json.Writer
import ScriptDoc.Proofs.Text.Utf8

/-!
# Reading back the scalars of JSON

* `stringStep_charText`: what is written for a character is read as that character, in one step;
* `readString_stringText`: a string is read up to its closing quote, whatever follows;
* `readScalar_constant`: so is a constant word;
* `readScalar_toString`: an integer is read back where no digit, point or exponent can follow it.
-/

namespace ScriptDoc.Json

open ScriptDoc.Text

/-! ### Escapes of code units -/

theorem hexDigit?_digitChar {d : Nat} (h : d < 16) : hexDigit? (Nat.digitChar d) = some d := by
  revert h
  revert d
  decide

theorem hexQuad?_digitChar {n : Nat} (h : n < 0x10000) :
    hexQuad? (Nat.digitChar (n / 4096 % 16)) (Nat.digitChar (n / 256 % 16))
      (Nat.digitChar (n / 16 % 16)) (Nat.digitChar (n % 16)) = some n := by
  have hd (m : Nat) : hexDigit? (Nat.digitChar (m % 16)) = some (m % 16) :=
    hexDigit?_digitChar (Nat.mod_lt _ (by decide))
  -- Below `0x10000` the four remainders are all the digits there are.
  have hn : ((n / 4096 % 16 * 16 + n / 256 % 16) * 16 + n / 16 % 16) * 16 + n % 16 = n := by omega
  simp only [hexQuad?, hd, Option.bind_eq_bind, Option.bind_some, hn]
  rfl

theorem stringStep_unitEscape (opened : Nat) {n : Nat} (h : n < 0x10000) (c : Char)
    (rest : List Char) :
    stringStep opened (unitEscape n ++ c :: rest) = unicodeStep n (c :: rest) := by
  change escapeStep opened ('u' :: (hexQuad n ++ c :: rest)) = _
  simp only [escapeStep, hexQuad, List.map_cons, List.map_nil, List.cons_append, List.nil_append,
    hexQuad?_digitChar h]
  rfl

/-- A code unit that is no surrogate is a character. -/
theorem unicodeStep_scalar {n : Nat} (h : n < 0xD800 ∨ 0xDFFF < n) (rest : List Char) :
    unicodeStep n rest = .char (Char.ofNat n) rest := by
  have hh : isHighSurrogate n = false := by
    simp only [isHighSurrogate, Bool.and_eq_false_iff, decide_eq_false_iff_not]
    omega
  have hl : isLowSurrogate n = false := by
    simp only [isLowSurrogate, Bool.and_eq_false_iff, decide_eq_false_iff_not]
    omega
  simp [unicodeStep, unitChar, hh, hl]

/-- Two surrogates in the right order are one character. -/
theorem unicodeStep_pair {high low : Nat} (hh : isHighSurrogate high = true)
    (hl : isLowSurrogate low = true) (c : Char) (rest : List Char) :
    unicodeStep high (unitEscape low ++ c :: rest)
      = .char (Char.ofNat (joinSurrogates high low)) (c :: rest) := by
  have hlow : low < 0x10000 := by
    simp only [isLowSurrogate, Bool.and_eq_true, decide_eq_true_eq] at hl
    omega
  have hp : pairedEscape (unitEscape low ++ c :: rest) = some (some low, c :: rest) := by
    simp only [unitEscape, hexQuad, List.map_cons, List.map_nil, List.cons_append, List.nil_append,
      pairedEscape, hexQuad?_digitChar hlow]
  simp only [unicodeStep, hh, if_true, hp, hl]

/-- A character beyond the first 65536 is the one of its two surrogates. -/
theorem unicodeStep_surrogates {n : Nat} (h : 0x10000 ≤ n) (h' : n < 0x110000) (c : Char)
    (rest : List Char) :
    unicodeStep (0xD800 + (n - 0x10000) / 1024)
        (unitEscape (0xDC00 + (n - 0x10000) % 1024) ++ c :: rest)
      = .char (Char.ofNat n) (c :: rest) := by
  have hh : isHighSurrogate (0xD800 + (n - 0x10000) / 1024) = true := by
    simp only [isHighSurrogate, Bool.and_eq_true, decide_eq_true_eq]
    omega
  have hl : isLowSurrogate (0xDC00 + (n - 0x10000) % 1024) = true := by
    simp only [isLowSurrogate, Bool.and_eq_true, decide_eq_true_eq]
    omega
  have hj : joinSurrogates (0xD800 + (n - 0x10000) / 1024) (0xDC00 + (n - 0x10000) % 1024) = n := by
    unfold joinSurrogates
    omega
  rw [unicodeStep_pair hh hl, hj]

/-! ### Characters and strings -/

/-- What stands for a character in a string: an escape of one letter, of a code unit or of two
surrogates, or the character itself. -/
theorem charText_cases (ascii : Bool) (c : Char) :
    (∃ x, charText ascii c = ['\\', x] ∧ x ≠ 'u' ∧ shortEscape? x = some c) ∨
    (charText ascii c = unitEscape c.toNat ∧ c.toNat < 0x10000) ∨
    (charText ascii c = unitEscape (0xD800 + (c.toNat - 0x10000) / 1024)
        ++ unitEscape (0xDC00 + (c.toNat - 0x10000) % 1024) ∧ 0x10000 ≤ c.toNat) ∨
    (charText ascii c = [c] ∧ c ≠ '"' ∧ c ≠ '\\' ∧ 0x20 ≤ c.toNat) := by
  by_cases h₁ : c = '"'
  · subst h₁
    exact .inl ⟨'"', rfl, by decide, rfl⟩
  by_cases h₂ : c = '\\'
  · subst h₂
    exact .inl ⟨'\\', rfl, by decide, rfl⟩
  by_cases h₃ : c = '\n'
  · subst h₃
    exact .inl ⟨'n', rfl, by decide, rfl⟩
  by_cases h₄ : c = '\r'
  · subst h₄
    exact .inl ⟨'r', rfl, by decide, rfl⟩
  by_cases h₅ : c = '\t'
  · subst h₅
    exact .inl ⟨'t', rfl, by decide, rfl⟩
  by_cases h₆ : c.toNat = 8
  · obtain rfl : c = Char.ofNat 8 := by rw [← h₆, Char.ofNat_toNat]
    exact .inl ⟨'b', rfl, by decide, rfl⟩
  by_cases h₇ : c.toNat = 12
  · obtain rfl : c = Char.ofNat 12 := by rw [← h₇, Char.ofNat_toNat]
    exact .inl ⟨'f', rfl, by decide, rfl⟩
  right
  simp only [charText, beq_eq_false_iff_ne.2 h₁, beq_eq_false_iff_ne.2 h₂, beq_eq_false_iff_ne.2 h₃,
    beq_eq_false_iff_ne.2 h₄, beq_eq_false_iff_ne.2 h₅, beq_eq_false_iff_ne.2 h₆,
    beq_eq_false_iff_ne.2 h₇, Bool.false_eq_true, if_false]
  split
  · exact .inl ⟨rfl, by omega⟩
  split
  · split
    · exact .inl ⟨rfl, by omega⟩
    · exact .inr (.inl ⟨rfl, by omega⟩)
  · exact .inr (.inr ⟨rfl, h₁, h₂, by omega⟩)

/-- **What is written for a character is read as that character.** In a string something always
follows, at least the closing quote. -/
theorem stringStep_charText (opened : Nat) (ascii : Bool) (c d : Char) (rest : List Char) :
    stringStep opened (charText ascii c ++ d :: rest) = .char c (d :: rest) := by
  have hc := Utf8.toNat_cases c
  rcases charText_cases ascii c with ⟨x, h, hu, hx⟩ | ⟨h, hn⟩ | ⟨h, hn⟩ | ⟨h, h₁, h₂, hn⟩ <;> rw [h]
  · change escapeStep opened (x :: d :: rest) = _
    simp [escapeStep, hu, hx]
  · rw [stringStep_unitEscape _ hn, unicodeStep_scalar (by omega), Char.ofNat_toNat]
  · obtain ⟨e, t, ht⟩ :
        ∃ e t, unitEscape (0xDC00 + (c.toNat - 0x10000) % 1024) ++ d :: rest = e :: t :=
      ⟨_, _, rfl⟩
    rw [List.append_assoc, ht, stringStep_unitEscape _ (by omega), ← ht,
      unicodeStep_surrogates hn (by omega), Char.ofNat_toNat]
  · simp [stringStep, h₁, h₂, Nat.not_lt.2 hn]

theorem readString_close (opened : Nat) (acc rest : List Char) :
    readString opened acc ('"' :: rest) = .ok (acc.reverse, rest) := by
  rw [readString]
  rfl

theorem readString_char {opened : Nat} {s r : List Char} {c : Char}
    (h : stringStep opened s = .char c r) (acc : List Char) :
    readString opened acc s = readString opened (c :: acc) r := by
  rw [readString]
  split <;> simp_all

/-- The body of a string is read up to its closing quote. -/
theorem readString_flatMap (opened : Nat) (ascii : Bool) (cs acc rest : List Char) :
    readString opened acc (cs.flatMap (charText ascii) ++ '"' :: rest)
      = .ok (acc.reverse ++ cs, rest) := by
  induction cs generalizing acc with
  | nil => rw [List.flatMap_nil, List.nil_append, readString_close, List.append_nil]
  | cons c cs ih =>
    -- The step needs a character after the one it reads: that of the rest, or the closing quote.
    obtain ⟨d, t, ht⟩ : ∃ d t, cs.flatMap (charText ascii) ++ '"' :: rest = d :: t :=
      List.exists_cons_of_ne_nil (by simp)
    have hs := stringStep_charText opened ascii c d t
    rw [← ht, ← List.append_assoc, ← List.flatMap_cons] at hs
    rw [readString_char hs, ih, List.reverse_cons, List.append_assoc, List.singleton_append]

/-- **Every string is read back, whatever follows it.** -/
theorem readString_stringText (ascii : Bool) (s : String) (rest : List Char) :
    ∃ t, stringText ascii s ++ rest = '"' :: t ∧
      ∀ opened, readString opened [] t = .ok (s.toList, rest) := by
  refine ⟨s.toList.flatMap (charText ascii) ++ '"' :: rest, ?_, fun opened => ?_⟩
  · simp [stringText]
  · rw [readString_flatMap, List.reverse_nil, List.nil_append]

/-! ### Constants -/

theorem readScalar_constant {word : String} {x : Scalar} (h : (word, x) ∈ constants)
    (rest : List Char) : readScalar (word.toList ++ rest) = .ok (x, rest) := by
  simp only [constants, List.mem_cons, Prod.mk.injEq, List.not_mem_nil, or_false] at h
  rcases h with ⟨rfl, rfl⟩ | ⟨rfl, rfl⟩ | ⟨rfl, rfl⟩ | ⟨rfl, rfl⟩ | ⟨rfl, rfl⟩ | ⟨rfl, rfl⟩
  all_goals
    simp [readScalar, constants, readConstant, dropWord]
    rw [if_pos (by omega)]

/-! ### Integers -/

/-- What may follow a value: nothing, white space, a comma or a closing bracket. -/
def Delimited (rest : List Char) : Prop :=
  ∀ c r, rest = c :: r → isSpace c = true ∨ c = ',' ∨ c = ']' ∨ c = '\x7d'

theorem delimited_cons {c : Char} (h : isSpace c = true ∨ c = ',' ∨ c = ']' ∨ c = '\x7d')
    (r : List Char) : Delimited (c :: r) := by
  intro d q hd
  cases hd
  exact h

/-- What follows a value continues no number. -/
theorem Delimited.not_number {c : Char} {r : List Char} (h : Delimited (c :: r)) :
    isAsciiDigit c = false ∧ c ≠ '.' ∧ (c == 'e' || c == 'E') = false := by
  have hc : c = ' ' ∨ c = '\t' ∨ c = '\n' ∨ c = '\r' ∨ c = ',' ∨ c = ']' ∨ c = '\x7d' := by
    simpa [isSpace, or_assoc] using h c r rfl
  rcases hc with rfl | rfl | rfl | rfl | rfl | rfl | rfl <;> decide

theorem isAsciiDigit_of_mem_toDigits {m : Nat} {c : Char} (h : c ∈ Nat.toDigits 10 m) :
    isAsciiDigit c = true := by
  have hd := Nat.isDigit_of_mem_toDigits (by decide) (by decide) h
  simp only [Char.isDigit, Bool.and_eq_true, decide_eq_true_eq] at hd
  simp only [isAsciiDigit, Bool.and_eq_true, decide_eq_true_eq]
  exact hd

theorem decimalValue_toDigits (m : Nat) : decimalValue (Nat.toDigits 10 m) = m :=
  Nat.ofDigitChars_ten_toDigits

/-- Only zero is written with a zero in front. -/
theorem head_toDigits_ne {m : Nat} (h : 0 < m) : ∃ c r, Nat.toDigits 10 m = c :: r ∧ c ≠ '0' := by
  induction m using Nat.strongRecOn with
  | ind m ih =>
    by_cases hm : m < 10
    · refine ⟨Nat.digitChar m, [], Nat.toDigits_of_lt_base hm, ?_⟩
      rw [ne_eq, Nat.digitChar_eq_zero]
      omega
    · obtain ⟨c, r, hr, hc⟩ := ih (m / 10) (by omega) (by omega)
      exact ⟨c, r ++ [Nat.digitChar (m % 10)], by
        rw [Nat.toDigits_of_base_le (by decide) (by omega), hr, List.cons_append], hc⟩

theorem takeDigits_toDigits (m : Nat) {rest : List Char} (h : Delimited rest) :
    takeDigits (Nat.toDigits 10 m ++ rest) = (Nat.toDigits 10 m, rest) := by
  have hd : ∀ c ∈ Nat.toDigits 10 m, isAsciiDigit c = true :=
    fun c hc => isAsciiDigit_of_mem_toDigits hc
  rw [takeDigits, List.takeWhile_append_of_pos hd, List.dropWhile_append_of_pos hd]
  cases rest with
  | nil => rw [List.takeWhile_nil, List.dropWhile_nil, List.append_nil]
  | cons c r => simp [h.not_number.1]

theorem takeWhole_toDigits (m : Nat) {rest : List Char} (h : Delimited rest) :
    takeWhole (Nat.toDigits 10 m ++ rest) = some (Nat.toDigits 10 m, rest) := by
  by_cases hm : m = 0
  · subst hm
    rfl
  · obtain ⟨c, r, hr, hc⟩ := head_toDigits_ne (Nat.pos_of_ne_zero hm)
    have hd : isAsciiDigit c = true :=
      isAsciiDigit_of_mem_toDigits (m := m) (hr ▸ List.mem_cons_self)
    have ht := takeDigits_toDigits m h
    rw [hr, List.cons_append] at ht ⊢
    simp only [takeWhole, hd, if_true, ht]

theorem takeFraction_eq {rest : List Char} (h : Delimited rest) :
    takeFraction rest = ([], rest) := by
  unfold takeFraction
  split
  · exact absurd rfl h.not_number.2.1
  · rfl

theorem takeExponent_eq {rest : List Char} (h : Delimited rest) :
    takeExponent rest = (none, rest) := by
  cases rest with
  | nil => rfl
  | cons c r => simp [takeExponent, h.not_number.2.2]

theorem numberScalar_toDigits (negative : Bool) {m : Nat}
    (hm : (Nat.toDigits 10 m).length ≤ maxDigits) :
    numberScalar negative (Nat.toDigits 10 m) [] none
      = .ok (.int (if negative then -(m : Int) else m)) := by
  simp only [numberScalar, List.isEmpty_nil, Option.isNone_none, Bool.and_self, if_true,
    decimalValue_toDigits]
  rw [if_neg (Nat.not_lt.2 hm)]

theorem readNumber_toDigits {m : Nat} (hm : (Nat.toDigits 10 m).length ≤ maxDigits)
    {rest : List Char} (h : Delimited rest) :
    readNumber (Nat.toDigits 10 m ++ rest) = .ok (.int m, rest) := by
  have hw := takeWhole_toDigits m h
  have hn := numberScalar_toDigits false hm
  obtain ⟨c, r, hr⟩ := List.exists_cons_of_ne_nil (Nat.toDigits_ne_nil (n := m) (b := 10))
  have hd : isAsciiDigit c = true :=
    isAsciiDigit_of_mem_toDigits (m := m) (hr ▸ List.mem_cons_self)
  have hc : ∀ t, c :: (r ++ rest) = '-' :: t → False := by
    intro t ht
    cases ht
    exact absurd hd (by decide)
  rw [hr, List.cons_append] at hw ⊢
  rw [hr] at hn
  unfold readNumber
  simp only [hw, takeFraction_eq h, takeExponent_eq h, hn, Except.map]
  rfl

theorem readNumber_minus_toDigits {m : Nat} (hm : (Nat.toDigits 10 m).length ≤ maxDigits)
    {rest : List Char} (h : Delimited rest) :
    readNumber ('-' :: (Nat.toDigits 10 m ++ rest)) = .ok (.int (-m), rest) := by
  unfold readNumber
  simp only [takeWhole_toDigits m h, takeFraction_eq h, takeExponent_eq h,
    numberScalar_toDigits true hm, Except.map, if_true]

/-- No constant word starts like a number. -/
theorem readConstant_digit {c : Char} (h : isAsciiDigit c = true) (r : List Char) :
    readConstant constants (c :: r) = none ∧ readConstant constants ('-' :: c :: r) = none := by
  have hne (d : Char) (hd : isAsciiDigit d = false) : (d == c) = false := by
    rw [beq_eq_false_iff_ne]
    rintro rfl
    rw [h] at hd
    cases hd
  have hn := hne 'n' (by decide)
  have ht := hne 't' (by decide)
  have hf := hne 'f' (by decide)
  have hN := hne 'N' (by decide)
  have hI := hne 'I' (by decide)
  have hm := hne '-' (by decide)
  constructor <;> simp [constants, readConstant, dropWord, hn, ht, hf, hN, hI, hm]

theorem toList_toString (n : Int) :
    (n = n.natAbs ∧ (toString n).toList = Nat.toDigits 10 n.natAbs) ∨
    (n = -n.natAbs ∧ (toString n).toList = '-' :: Nat.toDigits 10 n.natAbs) := by
  cases n with
  | ofNat m => exact .inl ⟨rfl, Nat.toList_repr⟩
  | negSucc m =>
    refine .inr ⟨rfl, ?_⟩
    change ("-" ++ Nat.repr (m + 1)).toList = _
    rw [String.toList_append, Nat.toList_repr]
    rfl

/-- **An integer is read back where no number can go on.** -/
theorem readScalar_toString {n : Int} (hn : (Nat.toDigits 10 n.natAbs).length ≤ maxDigits)
    {rest : List Char} (h : Delimited rest) :
    readScalar ((toString n).toList ++ rest) = .ok (.int n, rest) := by
  obtain ⟨c, r, hr⟩ :=
    List.exists_cons_of_ne_nil (Nat.toDigits_ne_nil (n := n.natAbs) (b := 10))
  have hd : isAsciiDigit c = true :=
    isAsciiDigit_of_mem_toDigits (m := n.natAbs) (hr ▸ List.mem_cons_self)
  have hc := readConstant_digit hd (r ++ rest)
  rw [← List.cons_append, ← hr] at hc
  rcases toList_toString n with ⟨hsign, hs⟩ | ⟨hsign, hs⟩
  · rw [hs, readScalar, hc.1]
    dsimp only
    rw [readNumber_toDigits hn h, ← hsign]
  · rw [hs, List.cons_append, readScalar, hc.2]
    dsimp only
    rw [readNumber_minus_toDigits hn h, ← hsign]

/-! ### Carriage returns -/

theorem carriageReturn_not_mem_charText (ascii : Bool) (c : Char) : '\r' ∉ charText ascii c := by
  have hu (n : Nat) : '\r' ∉ unitEscape n := by
    simp [unitEscape, hexQuad]
  rcases charText_cases ascii c with ⟨x, h, -, hx⟩ | ⟨h, -⟩ | ⟨h, -⟩ | ⟨h, -, -, hn⟩ <;> rw [h]
  · have hr : x ≠ '\r' := by
      rintro rfl
      cases hx
    simp [hr.symm]
  · exact hu _
  · rw [List.mem_append, not_or]
    exact ⟨hu _, hu _⟩
  · rw [List.mem_singleton]
    rintro rfl
    exact absurd hn (by decide)

theorem carriageReturn_not_mem_stringText (ascii : Bool) (s : String) :
    '\r' ∉ stringText ascii s := by
  have hc : '\r' ∉ s.toList.flatMap (charText ascii) := by
    rw [List.mem_flatMap]
    rintro ⟨c, -, hc⟩
    exact carriageReturn_not_mem_charText ascii c hc
  simp [stringText, hc]

theorem carriageReturn_not_mem_toString (n : Int) : '\r' ∉ (toString n).toList := by
  have hd : '\r' ∉ Nat.toDigits 10 n.natAbs := fun h =>
    absurd (isAsciiDigit_of_mem_toDigits h) (by decide)
  rcases toList_toString n with ⟨-, hs⟩ | ⟨-, hs⟩ <;> rw [hs]
  · exact hd
  · rw [List.mem_cons, not_or]
    exact ⟨by decide, hd⟩

end ScriptDoc.Json
