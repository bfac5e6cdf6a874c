import ScriptDoc.Data.Nesting
import ScriptDoc.Data.Value
import ScriptDoc.Json.Error
import ScriptDoc.Text.CodeUnit
import ScriptDoc.Text.Word

/-!
# Reading JSON

`Json.read` reads one value and refuses anything but white space around it.  Beyond the standard
it takes `NaN`, `Infinity` and `-Infinity`; of several members of one name the last one counts, in
the place of the first.  A number is an integer unless it has a fraction or an exponent.

The readers below take the characters from some place on and give back what follows the piece they
have read; each of them comes with the fact that this is shorter than what it was given.
-/

namespace ScriptDoc.Json

open ScriptDoc.Text (isAsciiDigit decimalValue hexDigit? isHighSurrogate isLowSurrogate joinSurrogates
  unitChar)

/-- The white space of JSON. -/
def isSpace (c : Char) : Bool := c == ' ' || c == '\t' || c == '\n' || c == '\r'

/-- Drops white space. -/
def skipSpace (s : List Char) : List Char := s.dropWhile isSpace

/-- The most digits that an integer may have. -/
def maxDigits : Nat := 4300

/-- The value of four hexadecimal digits. -/
def hexQuad? (a b c d : Char) : Option Nat := do
  let a ← hexDigit? a
  let b ← hexDigit? b
  let c ← hexDigit? c
  let d ← hexDigit? d
  return ((a * 16 + b) * 16 + c) * 16 + d

/-- The character of an escape of one letter. -/
def shortEscape? (c : Char) : Option Char :=
  match c with
  | '"' => some '"'
  | '\\' => some '\\'
  | '/' => some '/'
  | 'b' => some (Char.ofNat 8)
  | 'f' => some (Char.ofNat 12)
  | 'n' => some '\n'
  | 'r' => some '\r'
  | 't' => some '\t'
  | _ => none

/-- A step within a string. -/
inductive StringStep where
  /-- The closing quote. -/
  | close (rest : List Char)
  /-- One character of the string. -/
  | char (c : Char) (rest : List Char)
  | fault (f : Fault)

/-- The second half of a surrogate pair at the front of `s`, as an escape that is not the end of
the text, and what follows it. -/
def pairedEscape (s : List Char) : Option (Option Nat × List Char) :=
  match s with
  | '\\' :: 'u' :: a :: b :: c :: d :: e :: q => some (hexQuad? a b c d, e :: q)
  | _ => none

/-- The step of the escape `n`, of which `r` follows. -/
def unicodeStep (n : Nat) (r : List Char) : StringStep :=
  if isHighSurrogate n then
    match pairedEscape r with
    | some (none, _) => .fault (.malformed .unicodeEscape (r.length - 1))
    | some (some m, q) =>
      if isLowSurrogate m then .char (Char.ofNat (joinSurrogates n m)) q else .char (unitChar n) r
    | none => .char (unitChar n) r
  else .char (unitChar n) r

/-- The step of an escape, where `r` follows the backslash. -/
def escapeStep (opened : Nat) (r : List Char) : StringStep :=
  match r with
  | [] => .fault (.malformed .unterminatedString opened)
  | c :: q =>
    if c == 'u' then
      match q with
      | a :: b :: c :: d :: e :: t =>
        match hexQuad? a b c d with
        | none => .fault (.malformed .unicodeEscape r.length)
        | some n => unicodeStep n (e :: t)
      | _ => .fault (.malformed .unicodeEscape r.length)
    else
      match shortEscape? c with
      | some x => .char x q
      | none => .fault (.malformed .escape (r.length + 1))

/-- The step at the front of what follows an opening quote that had `opened` characters from
itself on. -/
def stringStep (opened : Nat) (s : List Char) : StringStep :=
  match s with
  | [] => .fault (.malformed .unterminatedString opened)
  | c :: r =>
    if c == '"' then .close r
    else if c == '\\' then escapeStep opened r
    else if c.toNat < 0x20 then .fault (.malformed .controlCharacter s.length)
    else .char c r

theorem pairedEscape_shorter {s r : List Char} {n : Option Nat}
    (h : pairedEscape s = some (n, r)) : r.length < s.length := by
  unfold pairedEscape at h
  split at h
  · simp only [Option.some.injEq, Prod.mk.injEq] at h
    rw [← h.2]
    simp only [List.length_cons]
    omega
  · simp at h

theorem unicodeStep_char {n : Nat} {r q : List Char} {c : Char}
    (h : unicodeStep n r = .char c q) : q.length ≤ r.length := by
  unfold unicodeStep at h
  have (m : Option Nat) (t : List Char) (ht : pairedEscape r = some (m, t)) :=
    pairedEscape_shorter ht
  grind

theorem unicodeStep_ne_close {n : Nat} {r q : List Char} : unicodeStep n r ≠ .close q := by
  unfold unicodeStep
  grind

theorem escapeStep_char {opened : Nat} {r q : List Char} {c : Char}
    (h : escapeStep opened r = .char c q) : q.length < r.length := by
  unfold escapeStep at h
  have key (n : Nat) (t : List Char) (ht : unicodeStep n t = .char c q) := unicodeStep_char ht
  grind

theorem escapeStep_ne_close {opened : Nat} {r q : List Char} :
    escapeStep opened r ≠ .close q := by
  unfold escapeStep
  have (n : Nat) (t : List Char) := @unicodeStep_ne_close n t q
  grind

theorem stringStep_close {opened : Nat} {s r : List Char} (h : stringStep opened s = .close r) :
    r.length < s.length := by
  unfold stringStep at h
  have := @escapeStep_ne_close opened
  grind

theorem stringStep_char {opened : Nat} {s r : List Char} {c : Char}
    (h : stringStep opened s = .char c r) : r.length < s.length := by
  unfold stringStep at h
  have (q : List Char) (hq : escapeStep opened q = .char c r) := escapeStep_char hq
  grind

/-- Reads a string after its opening quote; `acc` holds the characters read, last first. -/
def readString (opened : Nat) (acc : List Char) (s : List Char) :
    Except Fault (List Char × List Char) :=
  match h : stringStep opened s with
  | .close r => .ok (acc.reverse, r)
  | .char c r =>
    have := stringStep_char h
    readString opened (c :: acc) r
  | .fault f => .error f
termination_by s.length

theorem readString_shorter {opened : Nat} {acc s t r : List Char}
    (h : readString opened acc s = .ok (t, r)) : r.length < s.length := by
  fun_induction readString opened acc s with
  | case1 acc s r' hs =>
    have := stringStep_close hs
    grind
  | case2 acc s c r' hs hlt ih =>
    have := stringStep_char hs
    grind
  | case3 acc s f hs =>
    grind

/-- The digits at the front, and what follows them. -/
def takeDigits (s : List Char) : List Char × List Char :=
  (s.takeWhile isAsciiDigit, s.dropWhile isAsciiDigit)

/-- The digits of a fraction at the front, if a point and a digit stand there. -/
def takeFraction (s : List Char) : List Char × List Char :=
  match s with
  | '.' :: r =>
    let (ds, q) := takeDigits r
    if ds.isEmpty then ([], s) else (ds, q)
  | _ => ([], s)

/-- The exponent at the front, if a mark, perhaps a sign, and a digit stand there. -/
def takeExponent (s : List Char) : Option Int × List Char :=
  match s with
  | c :: r =>
    if c == 'e' || c == 'E' then
      let (negative, q) :=
        match r with
        | '-' :: q => (true, q)
        | '+' :: q => (false, q)
        | _ => (false, r)
      let (ds, rest) := takeDigits q
      if ds.isEmpty then (none, s)
      else (some (if negative then -(decimalValue ds : Int) else decimalValue ds), rest)
    else (none, s)
  | [] => (none, s)

/-- The whole digits of a number: a zero, or digits that do not start with one. -/
def takeWhole (s : List Char) : Option (List Char × List Char) :=
  match s with
  | '0' :: r => some (['0'], r)
  | c :: _ => if isAsciiDigit c then some (takeDigits s) else none
  | [] => none

/-- The scalar of a number's parts. -/
def numberScalar (negative : Bool) (whole fraction : List Char) (exponent : Option Int) :
    Except Fault Scalar :=
  if fraction.isEmpty && exponent.isNone then
    if whole.length > maxDigits then .error .longInteger
    else .ok (.int (if negative then -(decimalValue whole : Int) else decimalValue whole))
  else
    .ok (.real (.ofDecimal negative (decimalValue (whole ++ fraction))
      (exponent.getD 0 - fraction.length)))

/-- Reads a number. -/
def readNumber (s : List Char) : Except Fault (Scalar × List Char) :=
  let (negative, unsigned) :=
    match s with
    | '-' :: r => (true, r)
    | _ => (false, s)
  match takeWhole unsigned with
  | none => .error (.malformed .value s.length)
  | some (whole, r) =>
    let (fraction, r) := takeFraction r
    let (exponent, r) := takeExponent r
    (numberScalar negative whole fraction exponent).map (·, r)

theorem length_takeDigits (s : List Char) : (takeDigits s).2.length ≤ s.length :=
  (List.dropWhile_suffix _).length_le

theorem length_takeFraction (s : List Char) : (takeFraction s).2.length ≤ s.length := by
  unfold takeFraction
  have := length_takeDigits
  grind

theorem length_takeExponent (s : List Char) : (takeExponent s).2.length ≤ s.length := by
  unfold takeExponent
  have := length_takeDigits
  grind

theorem takeWhole_shorter {s ds r : List Char} (h : takeWhole s = some (ds, r)) :
    r.length < s.length := by
  unfold takeWhole at h
  split at h
  · grind
  · rename_i c q hc
    split at h
    · rename_i hd
      have hq : (takeDigits (c :: q)).2 = (takeDigits q).2 := by
        simp [takeDigits, hd]
      have := length_takeDigits q
      grind
    · simp at h
  · simp at h

theorem readNumber_shorter {s r : List Char} {x : Scalar} (h : readNumber s = .ok (x, r)) :
    r.length < s.length := by
  unfold readNumber at h
  split at h
  rename_i negative unsigned hu
  have hle : unsigned.length ≤ s.length := by grind
  split at h
  · simp at h
  · rename_i whole q hw
    have h₁ := takeWhole_shorter hw
    have h₂ := length_takeFraction q
    have h₃ := length_takeExponent (takeFraction q).2
    cases hn : numberScalar negative whole (takeFraction q).1 (takeExponent (takeFraction q).2).1 with
    | error e => simp [hn, Except.map] at h
    | ok y =>
      simp [hn, Except.map] at h
      grind

/-- Drops `word` from the front, if it stands there. -/
def dropWord (word s : List Char) : Option (List Char) :=
  match word, s with
  | [], s => some s
  | w :: ws, c :: cs => if w == c then dropWord ws cs else none
  | _ :: _, [] => none

/-- The words that stand for a scalar. -/
def constants : List (String × Scalar) :=
  [("null", .null), ("true", .bool true), ("false", .bool false), ("NaN", .real .nan),
    ("Infinity", .real (.infinite false)), ("-Infinity", .real (.infinite true))]

/-- Reads one of the constant words. -/
def readConstant : List (String × Scalar) → List Char → Option (Scalar × List Char)
  | [], _ => none
  | (w, x) :: more, s =>
    match dropWord w.toList s with
    | some r => if r.length < s.length then some (x, r) else readConstant more s
    | none => readConstant more s

theorem readConstant_shorter {table : List (String × Scalar)} {s r : List Char} {x : Scalar}
    (h : readConstant table s = some (x, r)) : r.length < s.length := by
  induction table with
  | nil => simp [readConstant] at h
  | cons e more ih =>
    simp only [readConstant] at h
    split at h
    · split at h
      · grind
      · exact ih h
    · exact ih h

/-- Reads a constant word or a number. -/
def readScalar (s : List Char) : Except Fault (Scalar × List Char) :=
  match readConstant constants s with
  | some r => .ok r
  | none => readNumber s

theorem readScalar_shorter {s r : List Char} {x : Scalar} (h : readScalar s = .ok (x, r)) :
    r.length < s.length := by
  unfold readScalar at h
  split at h
  · rename_i y hy
    cases h
    exact readConstant_shorter hy
  · exact readNumber_shorter h

/-- A value that was read from the front of `s`, and what follows it. -/
structure Taken (α : Type) (s : List Char) where
  value : α
  rest : List Char
  shorter : rest.length < s.length

theorem length_skipSpace (s : List Char) : (skipSpace s).length ≤ s.length :=
  (List.dropWhile_suffix _).length_le

mutual

/-- Reads a value, in which objects and lists may be nested `room` deep. -/
def readValue (room : Nat) (s : List Char) : Except Fault (Taken Value s) :=
  match h : s with
  | [] => .error (.malformed .value 0)
  | '"' :: r =>
    match hr : readString s.length [] r with
    | .error f => .error f
    | .ok (t, q) =>
      .ok ⟨.text (String.ofList t), q, by have := readString_shorter hr; simp only [List.length_cons]; omega⟩
  | '\x7b' :: r =>
    if room == 0 then .error .tooDeep
    else
      match hr : skipSpace r with
      | '\x7d' :: q =>
        .ok ⟨.map [], q, by
          have := length_skipSpace r; simp only [hr, List.length_cons] at this ⊢; omega⟩
      | q =>
        match readMembers (room - 1) [] q with
        | .error f => .error f
        | .ok ⟨entries, t, ht⟩ =>
          .ok ⟨.map entries, t, by
            have := length_skipSpace r; simp only [hr, List.length_cons] at this ⊢; omega⟩
  | '[' :: r =>
    if room == 0 then .error .tooDeep
    else
      match hr : skipSpace r with
      | ']' :: q =>
        .ok ⟨.list [], q, by
          have := length_skipSpace r; simp only [hr, List.length_cons] at this ⊢; omega⟩
      | q =>
        match readItems (room - 1) [] q with
        | .error f => .error f
        | .ok ⟨items, t, ht⟩ =>
          .ok ⟨.list items, t, by
            have := length_skipSpace r; simp only [hr, List.length_cons] at this ⊢; omega⟩
  | c :: r =>
    match hr : readScalar (c :: r) with
    | .error f => .error f
    | .ok (x, q) => .ok ⟨.scalar x, q, readScalar_shorter hr⟩
termination_by (s.length, 0)
decreasing_by
  all_goals
    subst h
    have := length_skipSpace r
    simp only [hr, List.length_cons] at this ⊢
    first | (apply Prod.Lex.left; omega)

/-- Reads list items up to the closing bracket; `acc` holds those before, last first. -/
def readItems (room : Nat) (acc : List Value) (s : List Char) : Except Fault (Taken (List Value) s) :=
  match readValue room s with
  | .error f => .error f
  | .ok ⟨v, r, hr⟩ =>
    match hq : skipSpace r with
    | ']' :: q =>
      .ok ⟨(v :: acc).reverse, q, by
        have := length_skipSpace r; simp only [hq, List.length_cons] at this; omega⟩
    | ',' :: q =>
      match readItems room (v :: acc) (skipSpace q) with
      | .error f => .error f
      | .ok ⟨items, t, ht⟩ =>
        .ok ⟨items, t, by
          have := length_skipSpace r; have := length_skipSpace q
          simp only [hq, List.length_cons] at *; omega⟩
    | q => .error (.malformed .commaDelimiter q.length)
termination_by (s.length, 1)
decreasing_by
  · apply Prod.Lex.right; omega
  · apply Prod.Lex.left
    have := length_skipSpace r; have := length_skipSpace q
    simp only [hq, List.length_cons] at *; omega

/-- Reads object members up to the closing brace; `acc` holds the entries before. -/
def readMembers (room : Nat) (acc : List (Scalar × Value)) (s : List Char) :
    Except Fault (Taken (List (Scalar × Value)) s) :=
  match hs : s with
  | '"' :: r =>
    match hk : readString s.length [] r with
    | .error f => .error f
    | .ok (key, r₁) =>
      match h₁ : skipSpace r₁ with
      | ':' :: r₂ =>
        match readValue room (skipSpace r₂) with
        | .error f => .error f
        | .ok ⟨v, r₃, h₃⟩ =>
          let entries := Value.insert (.text (String.ofList key)) v acc
          match h₄ : skipSpace r₃ with
          | '\x7d' :: q =>
            .ok ⟨entries, q, by
              have := readString_shorter hk
              have := length_skipSpace r₁; have := length_skipSpace r₂
              have := length_skipSpace r₃
              simp only [h₁, h₄, List.length_cons] at *; omega⟩
          | ',' :: q =>
            match readMembers room entries (skipSpace q) with
            | .error f => .error f
            | .ok ⟨all, t, ht⟩ =>
              .ok ⟨all, t, by
                have := readString_shorter hk
                have := length_skipSpace r₁; have := length_skipSpace r₂
                have := length_skipSpace r₃; have := length_skipSpace q
                simp only [h₁, h₄, List.length_cons] at *; omega⟩
          | q => .error (.malformed .commaDelimiter q.length)
      | q => .error (.malformed .colonDelimiter q.length)
  | q => .error (.malformed .propertyName q.length)
termination_by (s.length, 2)
decreasing_by
  · apply Prod.Lex.left
    subst hs
    have := readString_shorter hk
    have := length_skipSpace r₁; have := length_skipSpace r₂
    simp only [h₁, List.length_cons] at *; omega
  · apply Prod.Lex.left
    subst hs
    have := readString_shorter hk
    have := length_skipSpace r₁; have := length_skipSpace r₂
    have := length_skipSpace r₃; have := length_skipSpace q
    simp only [h₁, h₄, List.length_cons] at *; omega

end

/-- Reads a whole text as one value. -/
def readAll (text : List Char) (limits : NestingLimits := {}) : Except Fault Value :=
  match text with
  | '\uFEFF' :: _ => .error (.malformed .byteOrderMark text.length)
  | _ =>
    match readValue limits.json (skipSpace text) with
    | .error f => .error f
    | .ok ⟨v, r, _⟩ =>
      match skipSpace r with
      | [] => .ok v
      | q => .error (.malformed .extraData q.length)

/-- Reads a whole text as one value, or says where it is malformed. -/
def read (text : List Char) (limits : NestingLimits := {}) : Except Error Value :=
  (readAll text limits).mapError (·.locate text)

end ScriptDoc.Json
