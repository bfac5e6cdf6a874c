import ScriptDoc.Number.Binary64
import ScriptDoc.Text.Blank
import ScriptDoc.Text.Lowercase
import ScriptDoc.Text.Word
import ScriptDoc.Yaml.Error

/-!
# Numbers in scalars

`integerValue` and `floatValue` read the text of a scalar that is tagged as a number.  Low lines are
dropped; numbers with colons have base sixty.
-/

namespace ScriptDoc.Yaml

open ScriptDoc.Text

/-- The value of a digit in a base of at most 36. Decimal digits of all scripts count. -/
def digitValue? (base : Nat) (c : Char) : Option Nat :=
  let n := c.toNat
  let value :=
    match decimalRanges.find? fun r => r.1 ≤ n && n ≤ r.2 with
    | some r => some ((n - r.1) % 10)
    | none =>
      if 'a' ≤ c && c ≤ 'z' then some (n - 87)
      else if 'A' ≤ c && c ≤ 'Z' then some (n - 55)
      else none
  value.filter (· < base)

/-- The value of digits. -/
def digitsValue? (base : Nat) (cs : List Char) : Option Nat :=
  if cs.isEmpty then none
  else cs.foldlM (fun n c => (digitValue? base c).map (base * n + ·)) 0

/-- Splits a sign off. -/
def splitSign (cs : List Char) : Bool × List Char :=
  match cs with
  | '-' :: r => (true, r)
  | '+' :: r => (false, r)
  | _ => (false, cs)

/-- The letter that announces a base after a zero. -/
def baseLetter? (base : Nat) : Option Char :=
  match base with
  | 2 => some 'b'
  | 8 => some 'o'
  | 16 => some 'x'
  | _ => none

/-- Drops the announcement of a base. -/
def dropBase (base : Nat) (cs : List Char) : List Char :=
  match cs with
  | '0' :: c :: d :: r => if baseLetter? base == some c.toLower then d :: r else cs
  | _ => cs

/-- The integer that a text states in a base: white space around it is dropped, then come a sign and
digits. -/
def integerInBase (base : Nat) (cs : List Char) : Except Error Int :=
  let (negative, digits) := splitSign (trimSpace cs)
  match digitsValue? base (dropBase base digits) with
  | some n =>
    if base == 10 && digits.length > 4300 then .error .longInteger
    else .ok (if negative then -(n : Int) else n)
  | none => .error .badScalar

/-- Splits the sign off a number; the sign is a factor. -/
def signed (cs : List Char) : Except Error (Int × List Char) :=
  match cs with
  | [] => .error .emptyNumber
  | '-' :: r => .ok (-1, r)
  | '+' :: r => .ok (1, r)
  | _ => .ok (1, cs)

/-- The integer that a text without a sign states. -/
def unsignedInteger (cs : List Char) : Except Error Int :=
  match cs with
  | [] => .error .emptyNumber
  | ['0'] => .ok 0
  | '0' :: 'b' :: r => integerInBase 2 r
  | '0' :: 'x' :: r => integerInBase 16 r
  | '0' :: _ => integerInBase 8 cs
  | _ =>
    if cs.contains ':' then
      ((cs.splitOn ':').mapM (integerInBase 10)).map fun ds => ds.foldl (fun n d => 60 * n + d) 0
    else integerInBase 10 cs

/-- The value of a scalar that is tagged as an integer. -/
def integerValue (text : String) : Except Error Int := do
  let (sign, cs) ← signed (text.toList.filter (· != '_'))
  return sign * (← unsignedInteger cs)

/-- Digits of any script as ASCII digits. -/
def asciiDigits (cs : List Char) : List Char :=
  cs.map fun c =>
    match digitValue? 10 c with
    | some d => Char.ofNat (48 + d)
    | none => c

/-- The exponent that follows the digits of a number. -/
def exponent? (cs : List Char) : Option Int :=
  match cs with
  | [] => some 0
  | e :: r =>
    let (negative, digits) := splitSign r
    if e == 'e' && !digits.isEmpty && digits.all isAsciiDigit then
      some (if negative then -(decimalValue digits : Int) else decimalValue digits)
    else none

/-- The floating-point number that lower-case digits state. -/
def decimalFloat? (negative : Bool) (cs : List Char) : Option Binary64 :=
  let whole := cs.takeWhile isAsciiDigit
  let (fraction, rest) :=
    match cs.dropWhile isAsciiDigit with
    | '.' :: r => (r.takeWhile isAsciiDigit, r.dropWhile isAsciiDigit)
    | r => ([], r)
  if whole.isEmpty && fraction.isEmpty then none
  else
    (exponent? rest).map fun e =>
      .ofDecimal negative (decimalValue (whole ++ fraction)) (e - fraction.length)

/-- The floating-point number that a text in lower case states. -/
def floatOf (cs : List Char) : Except Error Binary64 :=
  let (negative, body) := splitSign (asciiDigits (trimSpace cs))
  match String.ofList body with
  | "inf" => .ok (.infinite negative)
  | "infinity" => .ok (.infinite negative)
  | "nan" => .ok .nan
  | _ =>
    match decimalFloat? negative body with
    | some x => .ok x
    | none => .error .badScalar

/-- Whether a scalar that is tagged as a floating-point number is written as the word for no number. -/
def isNanWord (text : String) : Bool :=
  String.ofList (splitSign (lower (text.toList.filter (· != '_')))).2 == ".nan"

/-- The sum of numbers, the last one first, each times a power of sixty from `scale` on. -/
def sexagesimalSum (scale : Nat) (total : Binary64) : List Binary64 → Except Error Binary64
  | [] => .ok total
  | x :: rest =>
    match Binary64.ofInt scale with
    | .infinite _ => .error .overflow
    | factor => sexagesimalSum (60 * scale) (total.add (x.mul factor)) rest

/-- The value of a scalar that is tagged as a floating-point number. -/
def floatValue (text : String) : Except Error Binary64 := do
  let (sign, cs) ← signed (lower (text.toList.filter (· != '_')))
  let magnitude ←
    if String.ofList cs == ".inf" then .ok (.infinite false)
    else if String.ofList cs == ".nan" then .ok .nan
    else if cs.contains ':' then do
      let parts ← (cs.splitOn ':').mapM floatOf
      sexagesimalSum 1 (.zero false) parts.reverse
    else floatOf cs
  return if sign < 0 then magnitude.neg else magnitude

end ScriptDoc.Yaml
