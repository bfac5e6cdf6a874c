import ScriptDoc.Number.Binary64

/-!
# The shortest decimal of a binary number

`shortestDigits` gives the fewest decimal digits that read back as the same number, and of those
the nearest ones.  It tries the grids of one, two, … seventeen digits; on each grid only the two
neighbours of the value can be the answer.

`Binary64.text` writes these digits: positionally from `10 ^ -4` up to below `10 ^ 16`, with an
exponent of at least two digits elsewhere.
-/

namespace ScriptDoc.Binary64

/-- A decimal `digits · 10 ^ exponent`. -/
structure Decimal where
  digits : Nat
  exponent : Int
  deriving DecidableEq, Repr

/-- Powers of ten and two that bring a grid `10 ^ k` and quarters of `2 ^ q` to one unit: the
factor of the quarters, and that of the grid. -/
def gridFactors (q k : Int) : Nat × Nat :=
  let e := q - 2
  (twoTo e.toNat * tenTo (-k).toNat, tenTo k.toNat * twoTo (-e).toNat)

/-- The greatest `e` with `10 ^ e` at most `m · 2 ^ q`. -/
def decimalExponent (m : Nat) (q : Int) : Int :=
  let a := m * twoTo q.toNat
  let b := twoTo (-q).toNat
  let d : Int := (decimalLength a : Int) - decimalLength b
  let reaches := if d ≥ 0 then b * tenTo d.toNat ≤ a else b ≤ a * tenTo (-d).toNat
  if reaches then d else d - 1

/-- The point of the grid `10 ^ k` that reads back as `m · 2 ^ q` and is nearest to it. -/
def onGrid? (m : Nat) (q k : Int) : Option Decimal :=
  let (quarter, step) := gridFactors q k
  let low := 4 * m - (if m == twoTo 52 && q > minExponent then 1 else 2)
  let high := 4 * m + 2
  let inside (c : Nat) : Bool :=
    if m % 2 == 0 then low * quarter ≤ c * step && c * step ≤ high * quarter
    else low * quarter < c * step && c * step < high * quarter
  let value := 4 * m * quarter
  let below := value / step
  let above := below + 1
  let nearBelow := value - below * step
  let nearAbove := above * step - value
  match inside below && below != 0, inside above with
  | true, true =>
    if nearBelow < nearAbove || (nearBelow == nearAbove && below % 2 == 0) then some ⟨below, k⟩
    else some ⟨above, k⟩
  | true, false => some ⟨below, k⟩
  | false, true => some ⟨above, k⟩
  | false, false => none

/-- The shortest decimal that reads back as `m · 2 ^ q`, for a mantissa that is not zero. -/
def shortestDigits (m : Nat) (q : Int) : Decimal :=
  let e := decimalExponent m q
  ((List.range 17).findSome? fun n : Nat => onGrid? m q (e - (n : Int))).getD ⟨m * twoTo q.toNat, 0⟩

/-- Drops zeros at the end of the digits. -/
def Decimal.trimZeros : Nat → Decimal → Decimal
  | 0, d => d
  | fuel + 1, d =>
    if d.digits != 0 && d.digits % 10 == 0 then trimZeros fuel ⟨d.digits / 10, d.exponent + 1⟩
    else d

/-- Writes a decimal that is not zero, positionally or with an exponent. -/
def Decimal.text (d : Decimal) : String :=
  let digits := Nat.toDigits 10 d.digits
  let lead : Int := d.exponent + digits.length - 1
  if -4 ≤ lead && lead < 16 then
    if lead < 0 then
      "0." ++ String.ofList (List.replicate ((-lead).toNat - 1) '0' ++ digits)
    else
      let whole := digits.take (lead.toNat + 1)
      let padding := List.replicate (lead.toNat + 1 - whole.length) '0'
      let part := digits.drop (lead.toNat + 1)
      String.ofList (whole ++ padding ++ ['.'] ++ if part.isEmpty then ['0'] else part)
  else
    let power := Nat.toDigits 10 lead.natAbs
    let power := if power.length < 2 then '0' :: power else power
    let mantissa :=
      match digits with
      | [] => []
      | [c] => [c]
      | c :: cs => c :: '.' :: cs
    String.ofList (mantissa ++ ['e', if lead < 0 then '-' else '+'] ++ power)

/-- The text of a number. -/
def text : Binary64 → String
  | .nan => "nan"
  | .infinite negative => if negative then "-inf" else "inf"
  | .finite negative m e =>
    let sign := if negative then "-" else ""
    if m == 0 then sign ++ "0.0"
    else sign ++ ((shortestDigits m e).trimZeros 400).text

end ScriptDoc.Binary64
