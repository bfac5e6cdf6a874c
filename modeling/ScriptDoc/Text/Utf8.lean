/-!
# UTF-8

A byte list is read as a list of *pieces*: well-formed characters, and flaws, each of which
covers a maximal run of bytes that could have started a character.  From the pieces come

* `decode`, which fails at the first flaw and says where it is;
* `decodeLossy`, which puts the replacement character in the place of each flaw.

`encode` writes a character list as bytes.
-/

namespace ScriptDoc.Text.Utf8

/-- Why some bytes are no character. -/
inductive FlawKind where
  | invalidStart
  | invalidContinuation
  | unexpectedEnd
  deriving DecidableEq, Repr

/-- What the bytes at the front of an input are: a character, or a flaw. -/
inductive Piece where
  | char (c : Char) (width : Nat)
  | flaw (kind : FlawKind) (width : Nat)
  deriving DecidableEq

/-- The number of bytes that a piece covers. -/
def Piece.width : Piece → Nat
  | .char _ w => w
  | .flaw _ w => w

/-- Whether a byte continues a character. -/
def isContinuation (b : UInt8) : Bool := 0x80 ≤ b.toNat && b.toNat < 0xC0

/-- The least and the greatest byte that may follow the first byte of a character of several
bytes. Overlong forms, surrogates and code points past `U+10FFFF` are shut out here. -/
def secondRange (b : Nat) : Nat × Nat :=
  if b == 0xE0 then (0xA0, 0xBF)
  else if b == 0xED then (0x80, 0x9F)
  else if b == 0xF0 then (0x90, 0xBF)
  else if b == 0xF4 then (0x80, 0x8F)
  else (0x80, 0xBF)

/-- The number of bytes that the first byte announces; `0` for a byte that starts nothing. -/
def announced (b : Nat) : Nat :=
  if b < 0x80 then 1
  else if b < 0xC2 then 0
  else if b < 0xE0 then 2
  else if b < 0xF0 then 3
  else if b < 0xF5 then 4
  else 0

/-- The piece at the front of `b :: rest`. -/
def front (b : UInt8) (rest : List UInt8) : Piece :=
  let n := b.toNat
  let second (b₂ : UInt8) : Bool := (secondRange n).1 ≤ b₂.toNat && b₂.toNat ≤ (secondRange n).2
  match announced n with
  | 1 => .char (Char.ofNat n) 1
  | 2 =>
    match rest with
    | [] => .flaw .unexpectedEnd 1
    | b₂ :: _ =>
      if second b₂ then .char (Char.ofNat ((n - 0xC0) * 64 + (b₂.toNat - 0x80))) 2
      else .flaw .invalidContinuation 1
  | 3 =>
    match rest with
    | [] => .flaw .unexpectedEnd 1
    | [b₂] => if second b₂ then .flaw .unexpectedEnd 2 else .flaw .invalidContinuation 1
    | b₂ :: b₃ :: _ =>
      if !second b₂ then .flaw .invalidContinuation 1
      else if !isContinuation b₃ then .flaw .invalidContinuation 2
      else .char (Char.ofNat ((n - 0xE0) * 4096 + (b₂.toNat - 0x80) * 64 + (b₃.toNat - 0x80))) 3
  | 4 =>
    match rest with
    | [] => .flaw .unexpectedEnd 1
    | [b₂] => if second b₂ then .flaw .unexpectedEnd 2 else .flaw .invalidContinuation 1
    | [b₂, b₃] =>
      if !second b₂ then .flaw .invalidContinuation 1
      else if !isContinuation b₃ then .flaw .invalidContinuation 2
      else .flaw .unexpectedEnd 3
    | b₂ :: b₃ :: b₄ :: _ =>
      if !second b₂ then .flaw .invalidContinuation 1
      else if !isContinuation b₃ then .flaw .invalidContinuation 2
      else if !isContinuation b₄ then .flaw .invalidContinuation 3
      else
        .char (Char.ofNat ((n - 0xF0) * 262144 + (b₂.toNat - 0x80) * 4096 + (b₃.toNat - 0x80) * 64
          + (b₄.toNat - 0x80))) 4
  | _ => .flaw .invalidStart 1

/-- The pieces of an input, from front to back. -/
def pieces : List UInt8 → List Piece
  | [] => []
  | b :: rest =>
    let p := front b rest
    p :: pieces (rest.drop (p.width - 1))
termination_by bytes => bytes.length
decreasing_by simp only [List.length_drop, List.length_cons]; omega

/-- Where and why an input is no text: `width` bytes from `start` on, the first of them `byte`. -/
structure Error where
  kind : FlawKind
  start : Nat
  width : Nat
  byte : UInt8
  deriving DecidableEq

/-- The characters of the pieces that start at the byte `start` of `bytes`. -/
def collect (bytes : List UInt8) (start : Nat) : List Piece → Except Error (List Char)
  | [] => .ok []
  | .char c w :: ps => (collect bytes (start + w) ps).map (c :: ·)
  | .flaw kind w :: _ => .error ⟨kind, start, w, bytes.getD start 0⟩

/-- Reads bytes as text, or says what is wrong with the first flaw. -/
def decode (bytes : List UInt8) : Except Error (List Char) := collect bytes 0 (pieces bytes)

/-- Reads bytes as text with `U+FFFD` in the place of each flaw. -/
def decodeLossy (bytes : List UInt8) : List Char :=
  (pieces bytes).map fun
    | .char c _ => c
    | .flaw _ _ => Char.ofNat 0xFFFD

/-- The bytes of one character. -/
def encodeChar (c : Char) : List UInt8 :=
  let n := c.toNat
  if n < 0x80 then [n.toUInt8]
  else if n < 0x800 then [(0xC0 + n / 64).toUInt8, (0x80 + n % 64).toUInt8]
  else if n < 0x10000 then
    [(0xE0 + n / 4096).toUInt8, (0x80 + n / 64 % 64).toUInt8, (0x80 + n % 64).toUInt8]
  else
    [(0xF0 + n / 262144).toUInt8, (0x80 + n / 4096 % 64).toUInt8, (0x80 + n / 64 % 64).toUInt8,
      (0x80 + n % 64).toUInt8]

/-- The bytes of a text. -/
def encode (cs : List Char) : List UInt8 := cs.flatMap encodeChar

/-- The words for a flaw. -/
def FlawKind.message : FlawKind → String
  | .invalidStart => "invalid start byte"
  | .invalidContinuation => "invalid continuation byte"
  | .unexpectedEnd => "unexpected end of data"

/-- Two lower-case hexadecimal digits. -/
def hexByte (b : UInt8) : String :=
  String.ofList [Nat.digitChar (b.toNat / 16), Nat.digitChar (b.toNat % 16)]

/-- The full description of a decoding error. -/
def Error.message (e : Error) : String :=
  let place :=
    if e.width ≤ 1 then s!"byte 0x{hexByte e.byte} in position {toString e.start}"
    else s!"bytes in position {toString e.start}-{toString (e.start + e.width - 1)}"
  s!"'utf-8' codec can't decode {place}: {e.kind.message}"

@[simp] theorem encode_nil : encode [] = [] := rfl

@[simp] theorem encode_cons (c : Char) (cs : List Char) :
    encode (c :: cs) = encodeChar c ++ encode cs := rfl

end ScriptDoc.Text.Utf8
