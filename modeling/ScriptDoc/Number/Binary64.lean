/-!
# Binary floating-point numbers of 64 bits

A finite number is `± mantissa · 2 ^ exponent` with a mantissa below `2 ^ 53`.  Every operation
is exact arithmetic on naturals followed by one rounding, `roundRatio`, to the nearest number of
the format, ties to the even mantissa.
-/

namespace ScriptDoc

/-- A binary floating-point number of 64 bits. -/
inductive Binary64 where
  | finite (negative : Bool) (mantissa : Nat) (exponent : Int)
  | infinite (negative : Bool)
  | nan
  deriving DecidableEq, Repr

namespace Binary64

/-- The exponent of the numbers nearest to zero. -/
def minExponent : Int := -1074

/-- The exponent of the greatest numbers. -/
def maxExponent : Int := 971

/-- A power of two. -/
def twoTo (n : Nat) : Nat := Nat.pow 2 n

/-- A power of ten. -/
def tenTo (n : Nat) : Nat := Nat.pow 10 n

/-- Zero, with a sign. -/
def zero (negative : Bool) : Binary64 := .finite negative 0 minExponent

/-- The quotient rounded to the nearest natural number, a half to the even one. -/
def roundDiv (num den : Nat) : Nat :=
  let q := num / den
  let r := 2 * (num % den)
  if r > den || (r == den && q % 2 == 1) then q + 1 else q

/-- `num / den / 2 ^ e`, rounded. -/
def scaledDiv (num den : Nat) (e : Int) : Nat :=
  if e ≥ 0 then roundDiv num (den * twoTo e.toNat) else roundDiv (num * twoTo (-e).toNat) den

/-- Whether `num / den / 2 ^ e` is at least `2 ^ 53`. -/
def overflows (num den : Nat) (e : Int) : Bool :=
  if e ≥ 0 then den * twoTo (e.toNat + 53) ≤ num else den * twoTo 53 ≤ num * twoTo (-e).toNat

/-- The number of the format nearest to `num / den`. -/
def roundRatio (negative : Bool) (num den : Nat) : Binary64 :=
  if num == 0 then zero negative
  else
    let guess : Int := max ((Nat.log2 num : Int) - Nat.log2 den - 53) minExponent
    let e := if overflows num den guess then guess + 1 else guess
    let m := scaledDiv num den e
    let (m, e) := if m == twoTo 53 then (twoTo 52, e + 1) else (m, e)
    if e > maxExponent then .infinite negative else .finite negative m e

/-- The number of the format nearest to `m · 2 ^ e`. -/
def ofScaled (negative : Bool) (m : Nat) (e : Int) : Binary64 :=
  if e ≥ 0 then roundRatio negative (m * twoTo e.toNat) 1
  else roundRatio negative m (twoTo (-e).toNat)

/-- How many decimal digits a natural number has. -/
def decimalLength (n : Nat) : Nat := (Nat.toDigits 10 n).length

/-- The number of the format nearest to `digits · 10 ^ e`. Powers that are past the format's
range by far are not computed. -/
def ofDecimal (negative : Bool) (digits : Nat) (e : Int) : Binary64 :=
  if digits == 0 then zero negative
  else
    let top : Int := decimalLength digits + e
    if top > 310 then .infinite negative
    else if top < -330 then zero negative
    else if e ≥ 0 then roundRatio negative (digits * tenTo e.toNat) 1
    else roundRatio negative digits (tenTo (-e).toNat)

/-- The number of the format nearest to an integer. -/
def ofInt (n : Int) : Binary64 := roundRatio (n < 0) n.natAbs 1

/-- The integer that a finite number equals, if there is one. -/
def toInt? : Binary64 → Option Int
  | .finite negative m e =>
    let sign : Int := if negative then -1 else 1
    if e ≥ 0 then some (sign * (m * twoTo e.toNat : Nat))
    else if m % twoTo (-e).toNat == 0 then some (sign * (m / twoTo (-e).toNat : Nat))
    else none
  | _ => none

/-- Change of sign. -/
def neg : Binary64 → Binary64
  | .finite s m e => .finite (!s) m e
  | .infinite s => .infinite (!s)
  | .nan => .nan

/-- Product of two numbers, rounded once. -/
def mul : Binary64 → Binary64 → Binary64
  | .finite s m e, .finite t n f => ofScaled (s != t) (m * n) (e + f)
  | .infinite s, .finite t n _ => if n == 0 then .nan else .infinite (s != t)
  | .finite s m _, .infinite t => if m == 0 then .nan else .infinite (s != t)
  | .infinite s, .infinite t => .infinite (s != t)
  | _, _ => .nan

/-- Sum of two numbers, rounded once. -/
def add : Binary64 → Binary64 → Binary64
  | .finite s m e, .finite t n f =>
    let low := min e f
    let a : Int := m * twoTo (e - low).toNat
    let b : Int := n * twoTo (f - low).toNat
    let total : Int := (if s then -a else a) + (if t then -b else b)
    if total == 0 then zero (s && t) else ofScaled (total < 0) total.natAbs low
  | .infinite s, .infinite t => if s == t then .infinite s else .nan
  | .infinite s, .finite _ _ _ => .infinite s
  | .finite _ _ _, .infinite t => .infinite t
  | _, _ => .nan

/-- Equality of values: both zeros are equal, and a NaN differs from all. -/
def sameValue : Binary64 → Binary64 → Bool
  | .finite s m e, .finite t n f => (m == 0 && n == 0) || (s == t && m == n && e == f)
  | .infinite s, .infinite t => s == t
  | _, _ => false

end Binary64

end ScriptDoc
