import ScriptDoc.Data.Value
import ScriptDoc.Yaml.Error
import ScriptDoc.Yaml.Tag

/-!
# Dates and moments in scalars
-/

namespace ScriptDoc.Yaml

open ScriptDoc.Text

/-- The number that one or two digits at the front give, and what follows them. -/
def oneOrTwoDigits? (cs : List Char) : Option (Nat × List Char) :=
  (dropOneOrTwoDigits cs).map fun r => (decimalValue (cs.take (cs.length - r.length)), r)

/-- The number that two digits at the front give, and what follows them. -/
def twoDigits? (cs : List Char) : Option (Nat × List Char) :=
  match cs with
  | a :: b :: r => if isAsciiDigit a && isAsciiDigit b then some (decimalValue [a, b], r) else none
  | _ => none

/-- The date at the front, and what follows it. -/
def dateAt? (cs : List Char) : Option (Date × List Char) := do
  let year := cs.take 4
  if year.length != 4 || !year.all isAsciiDigit then none
  let (month, r) ← oneOrTwoDigits? (← dropChar '-' (cs.drop 4))
  let (day, r) ← oneOrTwoDigits? (← dropChar '-' r)
  return (⟨decimalValue year, month, day⟩, r)

/-- The digits of a fraction of a second as millionths. -/
def microseconds (digits : List Char) : Nat := decimalValue (digits.take 6 ++ List.replicate (6 - digits.length) '0')

/-- Hour, minute, second and millionths at the front, and what follows them. -/
def timeAt? (cs : List Char) : Option ((Nat × Nat × Nat × Nat) × List Char) := do
  let (hour, r) ← oneOrTwoDigits? cs
  let (minute, r) ← twoDigits? (← dropChar ':' r)
  let (second, r) ← twoDigits? (← dropChar ':' r)
  match r with
  | '.' :: f => return ((hour, minute, second, microseconds (f.takeWhile isAsciiDigit)), f.dropWhile isAsciiDigit)
  | _ => return ((hour, minute, second, 0), r)

/-- The offset that ends a moment, in seconds: nothing, or, after blanks, `Z` or hours and minutes. -/
def offsetOf? (cs : List Char) : Option (Option Int) :=
  if cs.isEmpty then some none
  else
    match cs.dropWhile fun c => c == ' ' || c == '\t' with
    | ['Z'] => some (some 0)
    | sign :: r => do
      if sign != '-' && sign != '+' then none
      let (hours, r) ← oneOrTwoDigits? r
      let (minutes, r) ←
        match r with
        | ':' :: q => twoDigits? q
        | _ => some (0, r)
      if !r.isEmpty then none
      let seconds : Int := 3600 * hours + 60 * minutes
      return some (if sign == '-' then -seconds else seconds)
    | [] => none

/-- A moment, of which the date has been read and `cs` follows it. -/
def momentAfter? (date : Date) (cs : List Char) : Option Moment := do
  let time ←
    match cs with
    | 'T' :: r => some r
    | 't' :: r => some r
    | c :: r =>
      if c == ' ' || c == '\t' then some (r.dropWhile fun c => c == ' ' || c == '\t') else none
    | [] => none
  let ((hour, minute, second, microsecond), r) ← timeAt? time
  return ⟨date, hour, minute, second, microsecond, ← offsetOf? r⟩

/-- The date or moment that a text has the form of; a line feed at its end does not matter. -/
def timestampForm? (cs : List Char) : Option Scalar := do
  let body := if cs.getLast? == some '\n' then cs.dropLast else cs
  let (date, r) ← dateAt? body
  if r.isEmpty then return .date date else return .moment (← momentAfter? date r)

/-- The value of a scalar that is tagged as a date. -/
def timestampValue (text : String) : Except Error Scalar :=
  match timestampForm? text.toList with
  | none => .error .unknownDate
  | some (.date d) => if d.isValid then .ok (.date d) else .error .badScalar
  | some (.moment m) => if m.isValid then .ok (.moment m) else .error .badScalar
  | some s => .ok s

end ScriptDoc.Yaml
