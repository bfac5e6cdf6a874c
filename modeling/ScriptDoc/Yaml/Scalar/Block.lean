import ScriptDoc.Yaml.Error
import ScriptDoc.Yaml.Spot

/-!
# Block scalars

A block scalar consists of the lines that are indented as far as its first one.  Its header says
whether line ends are kept or folded, and what becomes of those after the last line.
-/

namespace ScriptDoc.Yaml

/-- What becomes of the line ends after the last line. -/
inductive Chomping where
  | strip
  | clip
  | keep
  deriving DecidableEq, Repr

/-- The header of a block scalar: chomping, and the indentation relative to the collection around. -/
structure BlockHeader where
  chomping : Chomping := .clip
  indent : Option Nat := none
  deriving DecidableEq, Repr

/-- The chomping at the front. -/
def chompingAt (s : List Spot) : Chomping × List Spot :=
  match s with
  | [] => (.clip, [])
  | p :: rest =>
    if p.char == '+' then (.keep, rest)
    else if p.char == '-' then (.strip, rest)
    else (.clip, p :: rest)

/-- The digit at the front. -/
def digitAt (s : List Spot) : Option Nat × List Spot :=
  match s with
  | [] => (none, [])
  | p :: rest =>
    if '0' ≤ p.char && p.char ≤ '9' then (some (p.char.toNat - 48), rest) else (none, p :: rest)

/-- The header at the front: chomping and indentation in either order. -/
def blockHeader (s : List Spot) : Except Error (BlockHeader × List Spot) :=
  let (first, afterFirst) := chompingAt s
  let (indent, afterDigit) := digitAt afterFirst
  let (chomping, rest) := if first == .clip then chompingAt afterDigit else (first, afterDigit)
  if indent == some 0 || !endsOrIn (fun c => c == ' ' || isBreak c) rest then
    .error (.malformed .badBlockHeader)
  else .ok (⟨chomping, indent⟩, rest)

/-- Drops blanks and a comment; then the line has to end. -/
def restOfLine (flaw : Flaw) (s : List Spot) : Except Error (List Spot) :=
  let afterBlanks := s.dropWhile fun p => p.char == ' '
  let afterComment :=
    if startsIn (· == '#') afterBlanks then afterBlanks.dropWhile fun p => !isBreak p.char
    else afterBlanks
  match afterComment with
  | [] => .ok []
  | p :: rest => if isBreak p.char then .ok rest else .error (.malformed flaw)

/-- The line ends at the front, and the furthest column that a blank before or between them ends
at. -/
def leadingLines : List Spot → List Char × Nat × List Spot
  | [] => ([], 0, [])
  | p :: rest =>
    if p.char == ' ' then
      let (breaks, furthest, after) := leadingLines rest
      (breaks, max furthest (p.column + 1), after)
    else if isBreak p.char then
      let (breaks, furthest, after) := leadingLines rest
      (p.char :: breaks, furthest, after)
    else ([], 0, p :: rest)

/-- The line ends at the front, with the blanks before column `indent`. -/
def emptyLines (indent : Nat) : List Spot → List Char × List Spot
  | [] => ([], [])
  | p :: rest =>
    if isBreak p.char then
      let (breaks, after) := emptyLines indent rest
      (p.char :: breaks, after)
    else if p.char == ' ' && p.column < indent then emptyLines indent rest
    else ([], p :: rest)

/-- The lines of a block scalar, and what follows them. -/
structure BlockText where
  text : List Char
  /-- The end of the last line. -/
  lastBreak : List Char
  /-- The line ends after that. -/
  breaks : List Char
  rest : List Spot

/-- The text between a line that ends by `lineEnd` and the next one, not counting the empty lines
between them. -/
def betweenLines (fold : Bool) (line next : List Spot) (lineEnd breaks : List Char) : List Char :=
  if fold && lineEnd == ['\n'] && !startsIn isSpaceOrTab line && !startsIn isSpaceOrTab next then
    if breaks.isEmpty then [' '] else []
  else lineEnd

/-- At most `fuel` lines at column `indent`, after the line ends `breaks`. -/
def blockLines (fold : Bool) (indent : Nat) : Nat → List Char → List Spot → BlockText
  | 0, breaks, s => ⟨[], [], breaks, s⟩
  | fuel + 1, breaks, s =>
    if s.head?.any fun p => p.column == indent then
      let line := s.takeWhile fun p => !isBreak p.char
      let afterLine := s.dropWhile fun p => !isBreak p.char
      let lineEnd := chars (afterLine.take 1)
      let (others, next) := emptyLines indent (afterLine.drop 1)
      if next.head?.any fun p => p.column == indent then
        let more := blockLines fold indent fuel others next
        { more with
          text := breaks ++ chars line ++ betweenLines fold s next lineEnd others ++ more.text }
      else ⟨breaks ++ chars line, lineEnd, others, next⟩
    else ⟨[], [], breaks, s⟩

/-- The text of lines after chomping. -/
def BlockText.chomped (b : BlockText) : Chomping → List Char
  | .strip => b.text
  | .clip => b.text ++ b.lastBreak
  | .keep => b.text ++ b.lastBreak ++ b.breaks

/-- The text of a block scalar, of which `s` follows the first character; its lines start at column
`least` or further. -/
def blockScalar (fold : Bool) (least : Nat) (s : List Spot) : Except Error (String × List Spot) := do
  let (header, afterHeader) ← blockHeader s
  let body ← restOfLine .badBlockHeader afterHeader
  let block :=
    match header.indent with
    | some n =>
      let indent := least + n - 1
      let (breaks, rest) := emptyLines indent body
      blockLines fold indent (rest.length + 1) breaks rest
    | none =>
      let (breaks, furthest, rest) := leadingLines body
      blockLines fold (max least furthest) (rest.length + 1) breaks rest
  return (String.ofList (block.chomped header.chomping), block.rest)

end ScriptDoc.Yaml
