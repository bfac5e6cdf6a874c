/-!
# Characters in their places

The rules of YAML depend on columns and lines, so a text is read as a list of `Spot`s: characters
together with their places.  All ways to end a line but the two separators of Unicode become line
feeds, and a carriage return before a line feed is dropped.
-/

namespace ScriptDoc.Yaml

/-- A character and its place in the text. -/
structure Spot where
  char : Char
  index : Nat
  line : Nat
  column : Nat
  deriving DecidableEq, Repr

/-- The byte order mark, which takes no column. -/
def byteOrderMark : Char := '\ufeff'

/-- The characters that end a line in a list of spots. -/
def isBreak (c : Char) : Bool := c == '\n' || c == '\u2028' || c == '\u2029'

/-- Blanks within a line. -/
def isSpaceOrTab (c : Char) : Bool := c == ' ' || c == '\t'

/-- Blanks and line ends. -/
def isGap (c : Char) : Bool := isSpaceOrTab c || isBreak c

/-- The character that stands for one which ends a line. -/
def unifiedBreak (c : Char) : Char := if c == '\r' || c == '\u0085' then '\n' else c

/-- The spots of a text whose first character is at the given place. -/
def locateFrom (index line column : Nat) : List Char → List Spot
  | [] => []
  | '\r' :: '\n' :: rest => ⟨'\n', index + 1, line, column⟩ :: locateFrom (index + 2) (line + 1) 0 rest
  | c :: rest =>
    let u := unifiedBreak c
    if isBreak u then ⟨u, index, line, column⟩ :: locateFrom (index + 1) (line + 1) 0 rest
    else
      ⟨c, index, line, column⟩ ::
        locateFrom (index + 1) line (if c == byteOrderMark then column else column + 1) rest

/-- The spots of a text; a byte order mark at its start is dropped. -/
def locate (text : List Char) : List Spot :=
  match locateFrom 0 0 0 text with
  | [] => []
  | p :: rest => if p.char == byteOrderMark then rest else p :: rest

/-- The characters of spots. -/
def chars (s : List Spot) : List Char := s.map (·.char)

/-- Whether the first character is of a class. -/
def startsIn (p : Char → Bool) (s : List Spot) : Bool := s.head?.any fun x => p x.char

/-- Whether the text ends, or its first character is of a class. -/
def endsOrIn (p : Char → Bool) (s : List Spot) : Bool := s.head?.all fun x => p x.char

/-- Whether the text starts with some characters. -/
def startsWith (word : List Char) (s : List Spot) : Bool := chars (s.take word.length) == word

/-- Whether a word is followed by a gap or the end. -/
def startsWithWord (word : List Char) (s : List Spot) : Bool :=
  startsWith word s && endsOrIn isGap (s.drop word.length)

/-- Whether a line starts with the mark of a document's start or end. -/
def atSeparator (s : List Spot) : Bool :=
  (s.head?.any (·.column == 0)) &&
    (startsWithWord ['-', '-', '-'] s || startsWithWord ['.', '.', '.'] s)

/-- What stands from the first character on that is not of a class, and the line ends before it. -/
def skipLines (skipped : Char → Bool) : List Spot → List Char × List Spot
  | [] => ([], [])
  | p :: rest =>
    if isBreak p.char then
      let (breaks, after) := skipLines skipped rest
      (p.char :: breaks, after)
    else if skipped p.char then skipLines skipped rest
    else ([], p :: rest)

/-- The text for a line end that is followed by others: a single line feed becomes a blank, and a
line feed before others is dropped. -/
def folded (first : Char) (others : List Char) : List Char :=
  if first != '\n' then first :: others
  else if others.isEmpty then [' ']
  else others

/-- The characters that a text may hold. -/
def isPrintable (c : Char) : Bool :=
  let n := c.toNat
  n == 9 || n == 10 || n == 13 || (0x20 ≤ n && n ≤ 0x7E) || n == 0x85 || (0xA0 ≤ n && n ≤ 0xD7FF)
    || (0xE000 ≤ n && n ≤ 0xFFFD) || 0x10000 ≤ n

end ScriptDoc.Yaml
