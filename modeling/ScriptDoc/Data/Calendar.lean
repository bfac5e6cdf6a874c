/-!
# Dates and moments

Days of the Gregorian calendar of the years 1 to 9999, and moments of a day with an optional
offset from universal time.
-/

namespace ScriptDoc

/-- A day of the calendar. -/
structure Date where
  year : Nat
  month : Nat
  day : Nat
  deriving DecidableEq, Repr

/-- A moment of a day; the offset from universal time, if known, is in seconds. -/
structure Moment where
  date : Date
  hour : Nat
  minute : Nat
  second : Nat
  microsecond : Nat
  offset : Option Int
  deriving DecidableEq, Repr

namespace Date

/-- Leap years of the Gregorian calendar. -/
def isLeap (year : Nat) : Bool := year % 4 == 0 && (year % 100 != 0 || year % 400 == 0)

/-- The number of days of a month. -/
def daysInMonth (year month : Nat) : Nat :=
  match month with
  | 2 => if isLeap year then 29 else 28
  | 4 => 30
  | 6 => 30
  | 9 => 30
  | 11 => 30
  | _ => 31

/-- Whether three numbers name a day. -/
def isValid (d : Date) : Bool :=
  1 ≤ d.year && d.year ≤ 9999 && 1 ≤ d.month && d.month ≤ 12 && 1 ≤ d.day
    && d.day ≤ daysInMonth d.year d.month

/-- The number of a day, counted from the first day of the year 1. -/
def dayNumber (d : Date) : Nat :=
  let years := d.year - 1
  let months := (List.range (d.month - 1)).map fun m => daysInMonth d.year (m + 1)
  365 * years + years / 4 - years / 100 + years / 400 + months.foldl (· + ·) 0 + d.day

/-- A number with leading zeros up to a width. -/
def padded (width n : Nat) : String :=
  String.ofList ((Nat.toDigits 10 n).leftpad width '0')

/-- Year, month and day, joined by hyphens. -/
def text (d : Date) : String := s!"{padded 4 d.year}-{padded 2 d.month}-{padded 2 d.day}"

end Date

namespace Moment

/-- Whether the parts of a moment are in their ranges; the offset is below one day. -/
def isValid (m : Moment) : Bool :=
  m.date.isValid && m.hour < 24 && m.minute < 60 && m.second < 60 && m.microsecond < 1000000
    && (m.offset.all fun o => o.natAbs < 86400)

/-- The millionths of a second from the first day of the year 1 on, in the moment's own time. -/
def localTime (m : Moment) : Nat :=
  (((24 * m.date.dayNumber + m.hour) * 60 + m.minute) * 60 + m.second) * 1000000 + m.microsecond

/-- Moments with offsets are the same when they are the same in universal time; one with an offset and
one without never are. -/
def same (a b : Moment) : Bool :=
  match a.offset, b.offset with
  | some x, some y => (a.localTime : Int) - 1000000 * x == b.localTime - 1000000 * y
  | none, none => a.localTime == b.localTime
  | _, _ => false

/-- Hours and minutes of an offset, and seconds if there are any. -/
def offsetText (o : Int) : String :=
  let n := o.natAbs
  let sign := if o < 0 then "-" else "+"
  let seconds := if n % 60 == 0 then "" else ":" ++ Date.padded 2 (n % 60)
  sign ++ Date.padded 2 (n / 3600) ++ ":" ++ Date.padded 2 (n / 60 % 60) ++ seconds

/-- Date, `T`, time of day to the second, the fraction if there is one, and the offset. -/
def text (m : Moment) : String :=
  let fraction := if m.microsecond == 0 then "" else "." ++ Date.padded 6 m.microsecond
  m.date.text ++ "T" ++ Date.padded 2 m.hour ++ ":" ++ Date.padded 2 m.minute ++ ":"
    ++ Date.padded 2 m.second ++ fraction ++ (m.offset.map offsetText).getD ""

end Moment

end ScriptDoc
