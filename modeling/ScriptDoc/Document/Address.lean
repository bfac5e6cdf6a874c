import ScriptDoc.Text.Blank
import ScriptDoc.Text.CodeUnit
import ScriptDoc.Text.Lowercase
import ScriptDoc.Text.Word

/-!
# Web addresses

`Address.isWellFormed` says whether a web address can be asked at all: its host has to be a name or a
number of the right form, and its service a number.
-/

namespace ScriptDoc.Address

open ScriptDoc.Text

/-- The most characters of an address. -/
def maxLength : Nat := 65536

/-- The control characters of ASCII, which no address has. -/
def isControl (c : Char) : Bool := c.toNat < 32 || c.toNat == 127

/-- The part of an address that names the server. -/
def authority (url : List Char) : List Char :=
  ((url.dropWhile (· != '/')).drop 2).takeWhile fun c => c != '/' && c != '?' && c != '#'

/-- What follows the last character of a kind, or all if there is none. -/
def afterLast (c : Char) (cs : List Char) : List Char := (cs.reverse.takeWhile (· != c)).reverse

/-- What comes before the last character of a kind and that character, if there is one. -/
def throughLast (c : Char) (cs : List Char) : List Char := cs.take (cs.length - (afterLast c cs).length)

/-- The host of an authority and the service number after it. A host in square brackets may have
colons. -/
def hostAndService (authority : List Char) : List Char × List Char :=
  let server := afterLast '@' authority
  let host :=
    if server.head? == some '[' && server.contains ']' then throughLast ']' server
    else server.takeWhile (· != ':')
  let rest := server.drop host.length
  (host, if rest.head? == some ':' then rest.drop 1 else rest)

/-- The most digits of a service number. -/
def maxDigits : Nat := 4300

/-- Whether a text states an integer: white space around it does not matter, and low lines may stand
between digits. -/
def isInteger (cs : List Char) : Bool :=
  let digits :=
    match trimSpace cs with
    | '-' :: r => r
    | '+' :: r => r
    | r => r
  let groups := digits.splitOn '_'
  groups.all (fun g => !g.isEmpty && g.all isDecimalDigit) && groups.flatten.length ≤ maxDigits

/-- What can follow at least one digit at the front. -/
def afterDigits : List Char → List (List Char)
  | [] => []
  | c :: cs => if isAsciiDigit c then cs :: afterDigits cs else []

/-- Whether a host looks like four numbers with any characters between them; `n` are left. -/
def looksNumeric : Nat → List Char → Bool
  | 0, cs => (afterDigits cs).contains []
  | n + 1, cs => (afterDigits cs).any fun r => !r.isEmpty && looksNumeric n (r.drop 1)

/-- Whether digits are a number of at most 255 without zeros in front. -/
def isOctet (cs : List Char) : Bool :=
  !cs.isEmpty && cs.length ≤ 3 && cs.all isAsciiDigit && (cs.length == 1 || cs.head? != some '0')
    && decimalValue cs ≤ 255

/-- Four numbers of one byte with points between them. -/
def isVersion4 (cs : List Char) : Bool :=
  let parts := cs.splitOn '.'
  parts.length == 4 && parts.all isOctet

/-- One to four hexadecimal digits. -/
def isHextet (cs : List Char) : Bool := !cs.isEmpty && cs.length ≤ 4 && (hexValue? cs).isSome

/-- The parts between colons, with two in the place of four numbers at the end. -/
def hextets? (cs : List Char) : Option (List (List Char)) :=
  let parts := cs.splitOn ':'
  match parts.getLast? with
  | some last =>
    if parts.length < 3 then none
    else if last.contains '.' then
      if isVersion4 last then some (parts.dropLast ++ [['0'], ['0']]) else none
    else some parts
  | none => none

/-- Whether the parts on one side of a gap are in order; the outermost one may be empty if it is alone. -/
def isSide (parts : List (List Char)) : Bool := parts == [[]] || parts.all isHextet

/-- Eight numbers of two bytes with colons between them; a gap stands for at least one zero. -/
def isVersion6Body (cs : List Char) : Bool :=
  match hextets? cs with
  | none => false
  | some parts =>
    let inner := (parts.drop 1).dropLast
    if inner.all (!·.isEmpty) then parts.length == 8 && parts.all isHextet
    else
      let before := parts.take 1 ++ inner.takeWhile (!·.isEmpty)
      let after := parts.drop (before.length + 1)
      let count (side : List (List Char)) : Nat := (side.filter (!·.isEmpty)).length
      parts.length ≤ 9 && inner.countP (·.isEmpty) == 1 && isSide before && isSide after
        && count before + count after < 8

/-- An address of version 6, perhaps with a zone after a percent sign. -/
def isVersion6 (cs : List Char) : Bool :=
  let zone := cs.dropWhile (· != '%')
  isVersion6Body (cs.takeWhile (· != '%'))
    && (zone.isEmpty || (zone.length > 1 && !(zone.drop 1).contains '%'))

/-- The characters of an international name: letters and digits that are not capitals. -/
def isNameChar (c : Char) : Bool :=
  c == '-' || (c != '_' && isWordChar c && lower [c] == [c])

/-- A label of an international name. -/
def isLabel (cs : List Char) : Bool :=
  !cs.isEmpty && cs.all isNameChar && cs.head? != some '-' && cs.getLast? != some '-'
    && (cs.drop 2).take 2 != ['-', '-']

/-- The points between the labels of an international name. -/
def isPoint (c : Char) : Bool := [0x2E, 0x3002, 0xFF0E, 0xFF61].contains c.toNat

/-- Whether a name with characters beyond ASCII is well formed; a point may end it. -/
def isInternationalName (cs : List Char) : Bool :=
  let labels := (lower cs).splitOnP isPoint
  let labels := if labels.getLast? == some [] then labels.dropLast else labels
  !labels.isEmpty && labels.all isLabel

/-- Whether a host is well formed. -/
def isHost (host : List Char) : Bool :=
  if looksNumeric 3 host then isVersion4 host
  else if host.head? == some '[' && host.getLast? == some ']' && host.length ≥ 2 then
    isVersion6 ((host.drop 1).dropLast)
  else host.all (·.toNat < 128) || isInternationalName host

/-- Whether a web address can be asked. -/
def isWellFormed (url : String) : Bool :=
  let cs := url.toList
  let (host, service) := hostAndService (authority cs)
  cs.length ≤ maxLength && !cs.any isControl && isHost host && (service.isEmpty || isInteger service)

end ScriptDoc.Address
