import ScriptDoc.Yaml.Spot

/-!
# Plain scalars

A plain scalar is made of words with gaps between them; it goes on over lines that are indented
further than the collection around it.  A colon before a gap, a number sign after one and, within
brackets, the indicators of flow collections end it.
-/

namespace ScriptDoc.Yaml

/-- The characters that end a word between brackets. -/
def isFlowIndicator (c : Char) : Bool :=
  c == ',' || c == '?' || c == '[' || c == ']' || c == '\x7b' || c == '\x7d'

/-- The characters before which, between brackets, a colon ends a word. -/
def isFlowDelimiter (c : Char) : Bool := isFlowIndicator c && c != '?'

/-- Whether a word ends at the front. -/
def endsWord (inFlow : Bool) (s : List Spot) : Bool :=
  match s with
  | [] => true
  | p :: rest =>
    isGap p.char
      || (p.char == ':' && endsOrIn (fun c => isGap c || (inFlow && isFlowDelimiter c)) rest)
      || (inFlow && isFlowIndicator p.char)

/-- The word at the front. -/
def plainWord (inFlow : Bool) : List Spot → List Char × List Spot
  | [] => ([], [])
  | p :: rest =>
    if endsWord inFlow (p :: rest) then ([], p :: rest)
    else
      let (word, after) := plainWord inFlow rest
      (p.char :: word, after)

/-- What stands between two words. -/
structure PlainGap where
  text : List Char
  /-- Whether a line ends in it. -/
  broken : Bool
  rest : List Spot

/-- The gap at the front. -/
def plainGap (s : List Spot) : PlainGap :=
  match s.dropWhile fun p => p.char == ' ' with
  | [] => ⟨chars (s.takeWhile fun p => p.char == ' '), false, []⟩
  | p :: rest =>
    if isBreak p.char then
      let (breaks, after) := skipLines (· == ' ') rest
      ⟨if atSeparator after then [] else folded p.char breaks, true, after⟩
    else ⟨chars (s.takeWhile fun p => p.char == ' '), false, p :: rest⟩

/-- Whether a scalar whose lines start at `indent` or further may go on after a gap. -/
def PlainGap.goesOn (inFlow : Bool) (indent : Nat) (g : PlainGap) : Bool :=
  !g.text.isEmpty && !startsIn (· == '#') g.rest
    && (inFlow || g.rest.head?.all fun p => indent ≤ p.column)

/-- A plain scalar that has been read. -/
structure PlainText where
  text : List Char
  /-- Whether a line ends after it. -/
  broken : Bool
  rest : List Spot

/-- At most `fuel` words, after `before`, which follows the word before it. -/
def plainWords (inFlow : Bool) (indent : Nat) : Nat → PlainGap → PlainText
  | 0, before => ⟨[], before.broken, before.rest⟩
  | fuel + 1, before =>
    let (word, rest) := plainWord inFlow before.rest
    if word.isEmpty then ⟨[], before.broken, before.rest⟩
    else
      let gap := plainGap rest
      if gap.goesOn inFlow indent then
        let others := plainWords inFlow indent fuel gap
        ⟨before.text ++ word ++ others.text, others.broken, others.rest⟩
      else ⟨before.text ++ word, gap.broken, gap.rest⟩

/-- The plain scalar at the front, the lines of which start at `indent` or further. -/
def plainScalar (inFlow : Bool) (indent : Nat) (s : List Spot) : PlainText :=
  plainWords inFlow indent (s.length + 1) ⟨[], false, s⟩

end ScriptDoc.Yaml
