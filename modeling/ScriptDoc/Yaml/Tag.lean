import ScriptDoc.Text.CodeUnit
import ScriptDoc.Text.Word

/-!
# Tags

A tag says what a node stands for.  A plain scalar without a tag gets the one that its text asks for:
`implicitTag` tries the forms of truth values, numbers, null, dates and the two special keys in turn,
and any other text is a string.
-/

namespace ScriptDoc.Yaml

open ScriptDoc.Text (isAsciiDigit hexDigit?)

/-- What a node stands for. -/
inductive Tag where
  | null
  | bool
  | int
  | float
  | binary
  | timestamp
  | orderedMap
  | pairs
  | set
  | str
  | seq
  | map
  /-- The key under which other mappings are merged in. -/
  | merge
  /-- The key of a default value. -/
  | default
  /-- Any other tag. -/
  | unknown (uri : String)
  deriving DecidableEq, Repr

/-- What all known tags start with. -/
def tagSpace : String := "tag:yaml.org,2002:"

/-- The names of the known tags. -/
def knownTags : List (String × Tag) :=
  [("null", .null), ("bool", .bool), ("int", .int), ("float", .float), ("binary", .binary),
    ("timestamp", .timestamp), ("omap", .orderedMap), ("pairs", .pairs), ("set", .set),
    ("str", .str), ("seq", .seq), ("map", .map), ("merge", .merge), ("value", .default)]

/-- The tag with a full name. -/
def Tag.ofUri (uri : String) : Tag :=
  match knownTags.find? fun t => tagSpace ++ t.1 == uri with
  | some t => t.2
  | none => .unknown uri

/-- The words for truth values. -/
def truthWords : List String :=
  ["yes", "Yes", "YES", "no", "No", "NO", "true", "True", "TRUE", "false", "False", "FALSE",
    "on", "On", "ON", "off", "Off", "OFF"]

/-- The words for null. -/
def nullWords : List String := ["", "~", "null", "Null", "NULL"]

/-- The words for infinity, with their point but without a sign. -/
def infinityWords : List String := [".inf", ".Inf", ".INF"]

/-- The words for what is not a number. -/
def nanWords : List String := [".nan", ".NaN", ".NAN"]

/-- Drops a sign. -/
def unsigned (cs : List Char) : List Char :=
  match cs with
  | '-' :: r => r
  | '+' :: r => r
  | _ => cs

/-- Digits and low lines, which may stand between digits. -/
def isDigitOrLine (c : Char) : Bool := isAsciiDigit c || c == '_'

/-- A digit, then digits and low lines. -/
def isGroupedNumber (cs : List Char) : Bool :=
  match cs with
  | [] => false
  | c :: r => isAsciiDigit c && r.all isDigitOrLine

/-- Nothing, or an exponent: its mark, a sign and digits. -/
def isExponentOrEmpty (cs : List Char) : Bool :=
  match cs with
  | [] => true
  | e :: sign :: d :: ds =>
    (e == 'e' || e == 'E') && (sign == '-' || sign == '+') && (d :: ds).all isAsciiDigit
  | _ => false

/-- A number of at most 59, in one or two digits. -/
def isSexagesimalDigit (cs : List Char) : Bool :=
  match cs with
  | [d] => isAsciiDigit d
  | [t, d] => '0' ≤ t && t ≤ '5' && isAsciiDigit d
  | _ => false

/-- Digits, then numbers of at most 59 after colons. -/
def isSexagesimal (cs : List Char) : Bool :=
  match cs.splitOn ':' with
  | first :: rest => isGroupedNumber first && !rest.isEmpty && rest.all isSexagesimalDigit
  | [] => false

/-- Digits, a point, digits, and perhaps an exponent. Without a sign the first digits may be left
out. -/
def isPointed (cs : List Char) : Bool :=
  let whole := (unsigned cs).takeWhile (· != '.')
  match (unsigned cs).dropWhile (· != '.') with
  | _ :: r =>
    isExponentOrEmpty (r.dropWhile isDigitOrLine)
      && (isGroupedNumber whole || (cs.head? == some '.' && r.head?.any isAsciiDigit))
  | [] => false

/-- A number of sixtieths with a point. -/
def isPointedSexagesimal (cs : List Char) : Bool :=
  match (unsigned cs).dropWhile (· != '.') with
  | _ :: r => isSexagesimal ((unsigned cs).takeWhile (· != '.')) && r.all isDigitOrLine
  | [] => false

/-- The forms of floating-point numbers. -/
def isFloatForm (cs : List Char) : Bool :=
  isPointed cs || isPointedSexagesimal cs || infinityWords.contains (String.ofList (unsigned cs))
    || nanWords.contains (String.ofList cs)

/-- The forms of integers: binary, octal, decimal, hexadecimal and sexagesimal. -/
def isIntForm (cs : List Char) : Bool :=
  match unsigned cs with
  | ['0'] => true
  | '0' :: 'b' :: d :: ds => (d :: ds).all fun c => c == '0' || c == '1' || c == '_'
  | '0' :: 'x' :: d :: ds => (d :: ds).all fun c => (hexDigit? c).isSome || c == '_'
  | '0' :: ds => ds.all fun c => ('0' ≤ c && c ≤ '7') || c == '_'
  | ds => isGroupedNumber ds || isSexagesimal ds

/-- One or two digits at the front. -/
def dropOneOrTwoDigits (cs : List Char) : Option (List Char) :=
  match cs with
  | a :: b :: r => if isAsciiDigit a then some (if isAsciiDigit b then r else b :: r) else none
  | [a] => if isAsciiDigit a then some [] else none
  | [] => none

/-- Drops a character that has to stand at the front. -/
def dropChar (c : Char) (cs : List Char) : Option (List Char) :=
  match cs with
  | d :: r => if c == d then some r else none
  | [] => none

/-- A year, a month and a day of four, two and two digits. -/
def isDateForm (cs : List Char) : Bool :=
  match cs with
  | [a, b, c, d, '-', e, f, '-', g, h] => [a, b, c, d, e, f, g, h].all isAsciiDigit
  | _ => false

/-- The offset of a time: `Z`, or a sign, an hour and perhaps a minute. -/
def isOffsetForm (cs : List Char) : Bool :=
  match cs with
  | [] => false
  | ['Z'] => true
  | sign :: r =>
    (sign == '-' || sign == '+') &&
      match dropOneOrTwoDigits r with
      | some [] => true
      | some [':', a, b] => isAsciiDigit a && isAsciiDigit b
      | _ => false

/-- An hour, a minute and a second, perhaps with a fraction and an offset. -/
def isTimeForm (cs : List Char) : Bool :=
  match dropOneOrTwoDigits cs with
  | some (':' :: a :: b :: ':' :: c :: d :: r) =>
    [a, b, c, d].all isAsciiDigit &&
      let afterFraction :=
        match r with
        | '.' :: f => f.dropWhile isAsciiDigit
        | _ => r
      afterFraction.isEmpty
        || isOffsetForm (afterFraction.dropWhile fun c => c == ' ' || c == '\t')
  | _ => false

/-- What follows the day of a date, where month and day may have one digit. -/
def afterDate? (cs : List Char) : Option (List Char) :=
  match cs with
  | a :: b :: c :: d :: '-' :: r =>
    if [a, b, c, d].all isAsciiDigit then
      (dropOneOrTwoDigits r).bind fun r => (dropChar '-' r).bind dropOneOrTwoDigits
    else none
  | _ => none

/-- A date and a time, with a letter `T` or blanks between them. -/
def isMomentForm (cs : List Char) : Bool :=
  match afterDate? cs with
  | some ('T' :: r) => isTimeForm r
  | some ('t' :: r) => isTimeForm r
  | some (c :: r) =>
    (c == ' ' || c == '\t') && isTimeForm (r.dropWhile fun c => c == ' ' || c == '\t')
  | _ => false

/-- The tag that the text of a plain scalar asks for. A line feed at its end does not matter, unless
there is nothing else. -/
def implicitTag (text : String) : Tag :=
  let cs := text.toList
  let body := if cs.length > 1 && cs.getLast? == some '\n' then cs.dropLast else cs
  let word := String.ofList body
  if truthWords.contains word then .bool
  else if isFloatForm body then .float
  else if isIntForm body then .int
  else if word == "<<" then .merge
  else if nullWords.contains word then .null
  else if isDateForm body || isMomentForm body then .timestamp
  else if word == "=" then .default
  else if ["!", "&", "*"].contains word then .unknown (tagSpace ++ "yaml")
  else .str

end ScriptDoc.Yaml
