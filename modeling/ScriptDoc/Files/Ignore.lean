import ScriptDoc.Text.Blank

/-!
# Ignore patterns

A list of ignore patterns, one on a line, says which paths below a directory are left out.

* A pattern with a slash before its end is anchored at the directory, any other one matches at every
  depth; `**` between slashes stands for any directories.
* A pattern that ends in a slash matches directories only; whatever matches takes all below it along,
  unless the pattern ends in a name that is a mere `*`.
* `!` takes paths back in: the last pattern that matches a path decides.

A path is given with slashes between its names, and with one at its end if it is a directory.
-/

namespace ScriptDoc.Ignore

open ScriptDoc.Text

/-- Why a line is no pattern. -/
inductive PatternError where
  /-- Nothing is left to match. -/
  | empty
  /-- A backslash has nothing to escape. -/
  | danglingEscape
  /-- A character range ends before it starts. -/
  | badRange
  deriving DecidableEq, Repr

/-- A piece of a pattern. -/
inductive Atom where
  | char (c : Char)
  /-- Any character but a slash. -/
  | one
  /-- Any characters but slashes. -/
  | many
  /-- At least one character, none of them a slash. -/
  | name
  /-- A character in, or not in, some ranges. -/
  | oneOf (negated : Bool) (ranges : List (Char × Char))
  /-- Nothing, or names with a slash after the last one. -/
  | above
  /-- Nothing, or a slash and names. -/
  | between
  /-- The end of the path, or a slash and all that follows. -/
  | below
  /-- The end of the path, perhaps after a slash. -/
  | here
  /-- A slash and all that follows. -/
  | inside
  /-- All that follows, if there is a slash in it. -/
  | nested
  /-- All that follows, if it is not empty. -/
  | all
  deriving DecidableEq, Repr

/-- What can be left of a path after a run of characters of a class. -/
def afterRun (p : Char → Bool) : List Char → List (List Char)
  | [] => [[]]
  | c :: cs => (c :: cs) :: if p c then afterRun p cs else []

/-- Any character but a line feed: wildcards that reach over slashes do not reach over line ends. -/
def inLine (c : Char) : Bool := c != '\n'

/-- What follows the slashes of the first line of a path. -/
def afterSlashes : List Char → List (List Char)
  | [] => []
  | c :: cs =>
    if c == '/' then cs :: afterSlashes cs
    else if inLine c then afterSlashes cs
    else []

/-- Whether a path ends; a last line feed does not count. -/
def atEnd (cs : List Char) : Bool := cs.isEmpty || cs == ['\n']

/-- All that follows, if a condition holds. -/
def restIf (condition : Bool) : List (List Char) := if condition then [[]] else []

/-- What can be left of a path after a piece of a pattern. -/
def Atom.rests : Atom → List Char → List (List Char)
  | .above, cs =>
    match cs with
    | c :: r => cs :: if inLine c then afterSlashes r else []
    | [] => [cs]
  | .between, cs =>
    match cs with
    | '/' :: c :: r => cs :: if inLine c then afterRun inLine r else []
    | _ => [cs]
  | .below, cs => restIf (atEnd cs || cs.head? == some '/')
  | .here, cs => restIf (atEnd cs || (cs.head? == some '/' && atEnd (cs.drop 1)))
  | .inside, cs => restIf (cs.head? == some '/')
  | .nested, cs => restIf (cs.contains '/')
  | .all, cs => restIf (cs.any inLine)
  | .many, cs => afterRun (· != '/') cs
  | _, [] => []
  | .char c, d :: r => if c == d then [r] else []
  | .one, d :: r => if d != '/' then [r] else []
  | .name, d :: r => if d != '/' then afterRun (· != '/') r else []
  | .oneOf negated ranges, d :: r =>
    if (ranges.any fun x => x.1 ≤ d && d ≤ x.2) != negated then [r] else []

/-- Whether a path is what the pieces of a pattern describe. -/
def accepts : List Atom → List Char → Bool
  | [], cs => cs.isEmpty
  | a :: as, cs => (a.rests cs).any (accepts as)

/-- The ranges of a bracket expression. -/
def ranges : List Char → List (Char × Char)
  | [] => []
  | a :: '-' :: b :: rest => (a, b) :: ranges rest
  | a :: rest => (a, a) :: ranges rest

/-- Whether no range of a piece ends before it starts. -/
def Atom.isOrdered : Atom → Bool
  | .oneOf _ ranges => ranges.all fun x => x.1 ≤ x.2
  | _ => true

/-- A bracket expression after its opening bracket: its negation, its contents and what follows. A
closing bracket that comes first belongs to the contents. -/
def bracket? (cs : List Char) : Option (Bool × List Char × List Char) :=
  let (negated, body) :=
    match cs with
    | '!' :: r => (true, r)
    | '^' :: r => (true, r)
    | _ => (false, cs)
  let (first, body) :=
    match body with
    | ']' :: r => ([']'], r)
    | _ => ([], body)
  match body.dropWhile (· != ']') with
  | [] => none
  | _ :: rest => some (negated, first ++ body.takeWhile (· != ']'), rest)

/-- The pieces of a segment; `n` bounds its length. A bracket that is not closed stands for itself. -/
def segmentAtoms : Nat → List Char → Except PatternError (List Atom)
  | 0, _ => .ok []
  | _ + 1, [] => .ok []
  | n + 1, c :: cs =>
    let cons (a : Atom) (rest : List Char) : Except PatternError (List Atom) :=
      (segmentAtoms n rest).map (a :: ·)
    if c == '\\' then
      match cs with
      | [] => .error .danglingEscape
      | d :: rest => cons (.char d) rest
    else if c == '*' then cons .many cs
    else if c == '?' then cons .one cs
    else if c == '[' then
      match bracket? cs with
      | none => cons (.char c) cs
      | some (negated, body, rest) => cons (.oneOf negated (ranges body)) rest
    else cons (.char c) cs

/-- Two stars, which stand for any directories. -/
def anyDirectories : List Char := ['*', '*']

/-- Puts any directories before a pattern that is not anchored, and after one that ends in a
slash. -/
def anchored (segments : List (List Char)) : List (List Char) :=
  let fromTop :=
    match segments with
    | [] :: rest => rest
    | [s] => if s == anyDirectories then [s] else [anyDirectories, s]
    | [s, []] => if s == anyDirectories then [s, []] else [anyDirectories, s, []]
    | _ => segments
  match fromTop.getLast? with
  | some [] => fromTop.dropLast ++ [anyDirectories]
  | _ => fromTop

/-- Leaves one of several adjacent segments that stand for any directories. -/
def collapse : List (List Char) → List (List Char)
  | [] => []
  | s :: rest =>
    match rest with
    | t :: _ => if s == anyDirectories && t == anyDirectories then collapse rest else s :: collapse rest
    | [] => [s]

/-- The pieces of a segment that is no `**`. A star alone needs at least one character, and at the end of a
pattern it takes nothing along. -/
def nameAtoms (last : Bool) (s : List Char) : Except PatternError (List Atom) :=
  if s == ['*'] then .ok (if last then [.name, .here] else [.name])
  else (segmentAtoms s.length s).map fun atoms => if last then atoms ++ [.below] else atoms

/-- The pieces of the segments of a pattern. `first` says that no segment comes before, `slash`
that a slash is due before a name. -/
def patternAtoms (first slash : Bool) : List (List Char) → Except PatternError (List Atom)
  | [] => .ok []
  | s :: rest =>
    if s == anyDirectories then
      if first then (patternAtoms false false rest).map (.above :: ·)
      else if rest.isEmpty then .ok [.inside]
      else (patternAtoms false true rest).map (.between :: ·)
    else do
      let lead := if slash then [Atom.char '/'] else []
      let own ← nameAtoms rest.isEmpty s
      return lead ++ own ++ (← patternAtoms false true rest)

/-- The pieces of patterns that consist of stars only: they match all paths, or all that are below some
directory. -/
def starAtoms? (directoryOnly : Bool) (segments : List (List Char)) : Option (List Atom) :=
  if segments == [anyDirectories] then some (if directoryOnly then [.nested] else [.all])
  else if segments == [anyDirectories, ['*']] then some [.all]
  else if segments == [anyDirectories, ['*'], anyDirectories] then some [.nested]
  else none

/-- A pattern: whether it takes paths back in, and what it matches. -/
structure Rule where
  negated : Bool
  atoms : List Atom
  deriving DecidableEq, Repr

/-- Drops blanks at the end of a line, unless the last one is escaped. -/
def withoutTrailingBlanks (line : List Char) : List Char :=
  match line.reverse with
  | ' ' :: '\\' :: _ => line
  | _ => trimRight isBlank line

/-- The pattern of a line. Blank lines and comments give none. -/
def Rule.ofLine (line : String) : Except PatternError (Option Rule) :=
  let cs := withoutTrailingBlanks line.toList
  match cs with
  | [] => .ok none
  | '#' :: _ => .ok none
  | c :: rest =>
    let negated := c == '!'
    let body := if negated then rest else cs
    let directoryOnly := body.getLast? == some '/' && body != ['/']
    let segments := collapse (anchored (body.splitOn '/'))
    if segments.isEmpty then .error .empty
    else
      match starAtoms? directoryOnly segments with
      | some atoms => .ok (some ⟨negated, atoms⟩)
      | none => do
        let atoms ← patternAtoms true false segments
        if atoms.all Atom.isOrdered then return some ⟨negated, atoms⟩ else .error .badRange

/-- The patterns of some lines. -/
def rules (lines : List String) : Except PatternError (List Rule) :=
  (lines.mapM Rule.ofLine).map (·.filterMap id)

/-- Whether a path is left out: the last pattern that matches it decides. -/
def ignores (rs : List Rule) (path : String) : Bool :=
  match rs.reverse.find? fun r => accepts r.atoms path.toList with
  | some r => !r.negated
  | none => false

/-- Which paths some lines leave out. -/
def compile (lines : List String) : Except PatternError (String → Bool) := (rules lines).map ignores

end ScriptDoc.Ignore
