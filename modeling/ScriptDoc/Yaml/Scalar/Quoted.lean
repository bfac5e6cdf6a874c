import ScriptDoc.Text.CodeUnit
import ScriptDoc.Yaml.Error
import ScriptDoc.Yaml.Spot

/-!
# Quoted scalars

Line ends within quotes are folded, with the blanks around them.  In single quotes a quote is written
twice; in double quotes a backslash starts an escape.
-/

namespace ScriptDoc.Yaml

open ScriptDoc.Text

/-- The quotes. -/
inductive Quote where
  | single
  | double
  deriving DecidableEq, Repr

namespace Quote

/-- The character of a quote. -/
def mark : Quote → Char
  | .single => '\''
  | .double => '"'

/-- Characters that stand for themselves. -/
def isOrdinary (q : Quote) (c : Char) : Bool :=
  c != q.mark && !(q == .double && c == '\\') && !isGap c

end Quote

/-- The character of an escape of one letter. -/
def shortEscape? (c : Char) : Option Char :=
  match c with
  | '0' => some '\x00'
  | 'a' => some '\x07'
  | 'b' => some '\x08'
  | 't' => some '\t'
  | '\t' => some '\t'
  | 'n' => some '\n'
  | 'v' => some '\x0b'
  | 'f' => some '\x0c'
  | 'r' => some '\r'
  | 'e' => some '\x1b'
  | ' ' => some ' '
  | '"' => some '"'
  | '\\' => some '\\'
  | '/' => some '/'
  | 'N' => some '\u0085'
  | '_' => some '\u00a0'
  | 'L' => some '\u2028'
  | 'P' => some '\u2029'
  | _ => none

/-- How many digits the escape of a letter takes. -/
def codeLength? (c : Char) : Option Nat :=
  match c with
  | 'x' => some 2
  | 'u' => some 4
  | 'U' => some 8
  | _ => none

/-- The number that `n` hexadecimal digits at the front give, and what follows them. -/
def codeAt? (n : Nat) (s : List Spot) : Option (Nat × List Spot) :=
  let digits := chars (s.take n)
  if digits.length == n then (hexValue? digits).map (·, s.drop n) else none

/-- The second half of a surrogate pair, given by an escape at the front. -/
def lowHalfAt? (s : List Spot) : Option (Nat × List Spot) :=
  if startsWith ['\\', 'u'] s then
    (codeAt? 4 (s.drop 2)).filter fun r => isLowSurrogate r.1
  else none

/-- The character of an escape by number, where `rest` follows the digits. -/
def codeChar (code : Nat) (rest : List Spot) : Except Error (Char × List Spot) :=
  if code > 0x10FFFF then .error (.noSuchCharacter code)
  else if isHighSurrogate code then
    match lowHalfAt? rest with
    | some (low, rest) => .ok (Char.ofNat (joinSurrogates code low), rest)
    | none => .ok (unitChar code, rest)
  else .ok (unitChar code, rest)

/-- The line ends and blanks at the start of a line within quotes. -/
def quotedLines (s : List Spot) : Except Error (List Char × List Spot) :=
  let (breaks, rest) := skipLines isSpaceOrTab s
  if atSeparator rest then .error (.malformed .separatorInQuote) else .ok (breaks, rest)

/-- The text of an escape, of which `s` follows the backslash. -/
def escapeText (s : List Spot) : Except Error (List Char × List Spot) :=
  match s with
  | [] => .error (.malformed .unknownEscape)
  | p :: rest =>
    match shortEscape? p.char, codeLength? p.char with
    | some c, _ => .ok ([c], rest)
    | none, some n =>
      match codeAt? n rest with
      | some (code, rest) => (codeChar code rest).map fun r => ([r.1], r.2)
      | none => .error (.malformed .unknownEscape)
    | none, none =>
      if isBreak p.char then quotedLines rest else .error (.malformed .unknownEscape)

/-- The text of the blanks and line ends at the front. -/
def quotedGap (s : List Spot) : Except Error (List Char × List Spot) :=
  match s.dropWhile fun p => isSpaceOrTab p.char with
  | [] => .error (.malformed .unfinishedQuote)
  | p :: rest =>
    if isBreak p.char then (quotedLines rest).map fun r => (folded p.char r.1, r.2)
    else .ok (chars (s.takeWhile fun p => isSpaceOrTab p.char), p :: rest)

/-- A piece of a quoted scalar. -/
inductive QuotedPiece where
  /-- The closing quote. -/
  | close (rest : List Spot)
  /-- Some of the text. -/
  | more (text : List Char) (rest : List Spot)

/-- The piece at the front. -/
def quotedPiece (q : Quote) (s : List Spot) : Except Error QuotedPiece :=
  match s with
  | [] => .error (.malformed .unfinishedQuote)
  | p :: rest =>
    if p.char == q.mark then
      if q == .single && startsIn (· == q.mark) rest then .ok (.more [q.mark] (rest.drop 1))
      else .ok (.close rest)
    else if q == .double && p.char == '\\' then (escapeText rest).map fun r => .more r.1 r.2
    else if isGap p.char then (quotedGap s).map fun r => .more r.1 r.2
    else
      let ordinary (x : Spot) : Bool := q.isOrdinary x.char
      .ok (.more (chars (s.takeWhile ordinary)) (s.dropWhile ordinary))

/-- The text up to the closing quote, of at most `fuel` pieces. -/
def quotedPieces (q : Quote) : Nat → List Spot → Except Error (List Char × List Spot)
  | 0, _ => .error (.malformed .unfinishedQuote)
  | fuel + 1, s => do
    match ← quotedPiece q s with
    | .close rest => return ([], rest)
    | .more text rest =>
      let (others, after) ← quotedPieces q fuel rest
      return (text ++ others, after)

/-- The text of a quoted scalar, of which `s` follows the opening quote. Every piece has at least one
character, so there are no more pieces than characters. -/
def quotedScalar (q : Quote) (s : List Spot) : Except Error (String × List Spot) :=
  (quotedPieces q (s.length + 1) s).map fun r => (String.ofList r.1, r.2)

end ScriptDoc.Yaml
