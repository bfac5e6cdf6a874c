import ScriptDoc.Yaml.Property
import ScriptDoc.Yaml.Scalar.Plain
import ScriptDoc.Yaml.Scalar.Quoted

/-!
# From characters to tokens

The lexer makes indentation explicit: it keeps the columns of the block collections that are open and
closes those that are further right than the next token.  A key is only known to be one when the colon
after it is met; until then its place among the tokens is remembered, and the tokens that announce it
are put in later.

* `Lexer.prepare` goes to the next token, `Lexer.next` reads it;
* `tokenStream` gives the tokens of a text.

A token is complete when no key that starts before it can be announced any more; only complete tokens
come before an error.
-/

namespace ScriptDoc.Yaml

/-- A place where a key may have started. -/
structure PossibleKey where
  /-- How many tokens come before it. -/
  before : Nat
  /-- Whether nothing but a key may stand there. -/
  required : Bool
  index : Nat
  line : Nat
  column : Nat
  deriving DecidableEq, Repr

/-- What is known while a text is cut into tokens. -/
structure Lexer where
  rest : List Spot
  /-- The tokens so far, last one first. -/
  tokens : List Token := []
  /-- The columns of the open block collections, innermost first. -/
  columns : List Nat := []
  /-- The possible key within each pair of open brackets, innermost first, and outside of all. -/
  keys : List (Option PossibleKey) := [none]
  /-- Whether a key may start at the next token. -/
  keyAllowed : Bool := true

namespace Lexer

/-- Whether the lexer is between brackets. -/
def inFlow (l : Lexer) : Bool := l.keys.length > 1

/-- Adds a token. -/
def emit (t : Token) (rest : List Spot) (l : Lexer) : Lexer :=
  { l with tokens := t :: l.tokens, rest }

/-- The most characters between the start of a key and its colon. -/
def maxKeyLength : Nat := 1024

/-- Whether a place is too far on for the colon of a key. -/
def isStale (p : Spot) (k : PossibleKey) : Bool :=
  k.line != p.line || p.index > k.index + maxKeyLength

/-- Gives up a possible key. -/
def giveUp (k : PossibleKey) : Except Error (Option PossibleKey) :=
  if k.required then .error (.malformed .missingColon) else .ok none

/-- Gives up the keys for whose colon it is too late. -/
def dropStale (l : Lexer) : Except Error Lexer :=
  match l.rest with
  | [] => .ok l
  | p :: _ => do
    let keys ← l.keys.mapM fun k =>
      match k with
      | some k => if isStale p k then giveUp k else .ok (some k)
      | none => .ok none
    return { l with keys }

/-- Gives up the innermost possible key. -/
def forgetKey (l : Lexer) : Except Error Lexer :=
  match l.keys with
  | some k :: outer => (giveUp k).map fun k => { l with keys := k :: outer }
  | _ => .ok l

/-- Notes that a key may start at `p`. -/
def rememberKey (p : Spot) (l : Lexer) : Except Error Lexer :=
  if l.keyAllowed then
    l.forgetKey.map fun l =>
      let required := !l.inFlow && l.columns.head? == some p.column
      { l with keys := some ⟨l.tokens.length, required, p.index, p.line, p.column⟩ :: l.keys.drop 1 }
  else .ok l

/-- Closes the block collections for which `isPast` holds of their columns. -/
def closeBlocks (isPast : Nat → Bool) (l : Lexer) : Lexer :=
  if l.inFlow then l
  else
    { l with
      tokens := (l.columns.takeWhile isPast).map (fun _ => Token.blockEnd) ++ l.tokens
      columns := l.columns.dropWhile isPast }

/-- Whether a block collection may be opened at a column. -/
def opensBlock (column : Nat) (l : Lexer) : Bool := l.columns.head?.all (· < column)

/-- Opens a block collection at a column, unless one is open there. -/
def openBlock (start : Token) (column : Nat) (l : Lexer) : Lexer :=
  if l.opensBlock column then
    { l with tokens := start :: l.tokens, columns := column :: l.columns }
  else l

mutual

/-- Drops blanks, comments and line ends; says whether a line ended. -/
def skipBlank : List Spot → Bool × List Spot
  | [] => (false, [])
  | p :: rest =>
    if p.char == ' ' then skipBlank rest
    else if isBreak p.char then (true, (skipBlank rest).2)
    else if p.char == '#' then skipComment rest
    else (false, p :: rest)

/-- Drops the rest of a comment, then as `skipBlank`. -/
def skipComment : List Spot → Bool × List Spot
  | [] => (false, [])
  | p :: rest => if isBreak p.char then (true, (skipBlank rest).2) else skipComment rest

end

/-- Goes to the next token and closes the block collections that end before it. -/
def prepare (l : Lexer) : Except Error Lexer := do
  let (broken, rest) := skipBlank l.rest
  let l ← dropStale { l with rest, keyAllowed := l.keyAllowed || (broken && !l.inFlow) }
  match rest with
  | [] => return l
  | p :: _ => return l.closeBlocks (p.column < ·)

/-- Ends the text. -/
def finish (l : Lexer) : Except Error (List Token) :=
  (l.closeBlocks fun _ => true).forgetKey.map (·.tokens.reverse)

/-- A directive or a mark of a document's start or end. -/
def documentToken (t : Token) (rest : List Spot) (l : Lexer) : Except Error Lexer :=
  (l.closeBlocks fun _ => true).forgetKey.map fun l => { l.emit t rest with keyAllowed := false }

/-- An opening bracket. -/
def openFlow (t : Token) (p : Spot) (rest : List Spot) (l : Lexer) : Except Error Lexer :=
  (l.rememberKey p).map fun l =>
    { l.emit t rest with keys := none :: l.keys, keyAllowed := true }

/-- A closing bracket. -/
def closeFlow (t : Token) (rest : List Spot) (l : Lexer) : Except Error Lexer :=
  l.forgetKey.map fun l =>
    { l.emit t rest with keys := if l.inFlow then l.keys.drop 1 else l.keys, keyAllowed := false }

/-- A comma between brackets. -/
def flowEntry (rest : List Spot) (l : Lexer) : Except Error Lexer :=
  l.forgetKey.map fun l => { l.emit .flowEntry rest with keyAllowed := true }

/-- Opens a block collection at an indicator; between brackets there are none. -/
def openBlockAt (start : Token) (flaw : Flaw) (p : Spot) (l : Lexer) : Except Error Lexer :=
  if l.inFlow then .ok l
  else if l.keyAllowed then .ok (l.openBlock start p.column)
  else .error (.malformed flaw)

/-- The hyphen of a sequence entry. -/
def blockEntry (p : Spot) (rest : List Spot) (l : Lexer) : Except Error Lexer := do
  let l ← l.openBlockAt .blockSequenceStart .entryNotAllowed p
  let l ← l.forgetKey
  return { l.emit .blockEntry rest with keyAllowed := true }

/-- The question mark of a key. -/
def markedKey (p : Spot) (rest : List Spot) (l : Lexer) : Except Error Lexer := do
  let l ← l.openBlockAt .blockMappingStart .keyNotAllowed p
  let l ← l.forgetKey
  return { l.emit .key rest with keyAllowed := !l.inFlow }

/-- Puts the tokens that announce a key in their place. -/
def announceKey (k : PossibleKey) (l : Lexer) : Lexer :=
  let since := l.tokens.length - k.before
  let opens := !l.inFlow && l.opensBlock k.column
  { l with
    tokens := l.tokens.take since ++ Token.key ::
      (if opens then [Token.blockMappingStart] else []) ++ l.tokens.drop since
    columns := if opens then k.column :: l.columns else l.columns
    keys := none :: l.keys.drop 1 }

/-- The colon before a value. -/
def valueColon (p : Spot) (rest : List Spot) (l : Lexer) : Except Error Lexer :=
  match l.keys with
  | some k :: _ => .ok { (l.announceKey k).emit .value rest with keyAllowed := false }
  | _ =>
    (l.openBlockAt .blockMappingStart .valueNotAllowed p).map fun l =>
      { l.emit .value rest with keyAllowed := !l.inFlow }

/-- A token that may be the start of a key, or a scalar in quotes. -/
def nodeToken (p : Spot) (token : Except Error (Token × List Spot)) (l : Lexer) :
    Except Error Lexer := do
  let l ← l.rememberKey p
  let (t, rest) ← token
  return { l.emit t rest with keyAllowed := false }

/-- A block scalar. -/
def blockText (fold : Bool) (rest : List Spot) (l : Lexer) : Except Error Lexer := do
  let l ← l.forgetKey
  let least := max 1 ((l.columns.head?.map (· + 1)).getD 0)
  let (text, rest) ← blockScalar fold least rest
  return { l.emit (.scalar text false) rest with keyAllowed := true }

/-- A plain scalar. -/
def plainText (p : Spot) (l : Lexer) : Except Error Lexer := do
  let l ← l.rememberKey p
  let plain := plainScalar l.inFlow ((l.columns.head?.map (· + 1)).getD 0) l.rest
  return { l.emit (.scalar (String.ofList plain.text) true) plain.rest with
    keyAllowed := plain.broken }

/-- The characters that do not start a plain scalar, unless a hyphen, question mark or colon before
other characters. -/
def isIndicator (c : Char) : Bool :=
  isGap c || ['-', '?', ':', ',', '[', ']', '\x7b', '\x7d', '#', '&', '*', '!', '|', '>', '\'', '"',
    '%', '@', '`'].contains c

/-- Whether a plain scalar starts at `p`. -/
def startsPlain (p : Spot) (rest : List Spot) (l : Lexer) : Bool :=
  !isIndicator p.char ||
    (!endsOrIn isGap rest
      && (p.char == '-' || (!l.inFlow && (p.char == '?' || p.char == ':'))))

/-- The token at the front of a line that is no part of a document. -/
def outerToken? (p : Spot) (rest : List Spot) (l : Lexer) : Option (Except Error Lexer) :=
  if p.column != 0 then none
  else if p.char == '%' then
    some ((directive rest).bind fun r => l.documentToken (.directive r.1) r.2)
  else if startsWithWord ['-', '-', '-'] l.rest then
    some (l.documentToken .documentStart (l.rest.drop 3))
  else if startsWithWord ['.', '.', '.'] l.rest then
    some (l.documentToken .documentEnd (l.rest.drop 3))
  else none

/-- The indicators of structure. -/
def structureToken? (p : Spot) (rest : List Spot) (l : Lexer) : Option (Except Error Lexer) :=
  match p.char with
  | '[' => some (l.openFlow .flowSequenceStart p rest)
  | '\x7b' => some (l.openFlow .flowMappingStart p rest)
  | ']' => some (l.closeFlow .flowSequenceEnd rest)
  | '\x7d' => some (l.closeFlow .flowMappingEnd rest)
  | ',' => some (l.flowEntry rest)
  | '-' => if endsOrIn isGap rest then some (l.blockEntry p rest) else none
  | '?' => if l.inFlow || endsOrIn isGap rest then some (l.markedKey p rest) else none
  | ':' => if l.inFlow || endsOrIn isGap rest then some (l.valueColon p rest) else none
  | _ => none

/-- The tokens of nodes that start with an indicator. -/
def nodeToken? (p : Spot) (rest : List Spot) (l : Lexer) : Option (Except Error Lexer) :=
  match p.char with
  | '*' => some (l.nodeToken p ((anchorName rest).map fun r => (.alias r.1, r.2)))
  | '&' => some (l.nodeToken p ((anchorName rest).map fun r => (.anchor r.1, r.2)))
  | '!' => some (l.nodeToken p (tagToken l.rest))
  | '|' => if l.inFlow then none else some (l.blockText false rest)
  | '>' => if l.inFlow then none else some (l.blockText true rest)
  | '\'' => some (l.nodeToken p ((quotedScalar .single rest).map fun r => (.scalar r.1 false, r.2)))
  | '"' => some (l.nodeToken p ((quotedScalar .double rest).map fun r => (.scalar r.1 false, r.2)))
  | _ => none

/-- Reads the token that starts at `p`. -/
def next (p : Spot) (rest : List Spot) (l : Lexer) : Except Error Lexer :=
  match (l.outerToken? p rest).or ((l.structureToken? p rest).or (l.nodeToken? p rest)) with
  | some l => l
  | none => if l.startsPlain p rest then l.plainText p else .error (.malformed (.strayCharacter p.char))

/-- How many tokens are complete: the tokens that announce a possible key would come before it. -/
def completed (l : Lexer) : Nat :=
  (l.keys.filterMap fun k => k.map (·.before)).foldl min l.tokens.length

/-- The tokens before an error. -/
def stopped (l : Lexer) (e : Error) : TokenStream := ⟨l.tokens.reverse.take l.completed, some e⟩

/-- Reads the next token; there is none at the end of the text. -/
def advance? (l : Lexer) : Except Error (Option Lexer) := do
  let l ← l.prepare
  match l.rest with
  | [] => return none
  | p :: rest => return some (← l.next p rest)

/-- All tokens at the end of the text. -/
def ended (l : Lexer) : TokenStream :=
  match l.prepare.bind (·.finish) with
  | .ok tokens => ⟨tokens, none⟩
  | .error e => l.stopped e

/-- Reads at most `fuel` tokens. -/
def run : Nat → Lexer → TokenStream
  | 0, l => l.ended
  | fuel + 1, l =>
    match l.dropStale with
    | .error e => l.stopped e
    | .ok l =>
      match l.advance? with
      | .error e => l.stopped e
      | .ok none => l.ended
      | .ok (some l) => run fuel l

end Lexer

/-- The tokens of a text. Every token takes at least one character. -/
def tokenStream (s : List Spot) : TokenStream := Lexer.run (s.length + 1) { rest := s }

end ScriptDoc.Yaml
