/-!
# Faults of a JSON text

A reader knows how much of the input is left when it meets a fault; `Fault.locate` turns this into
a place in the whole text.
-/

namespace ScriptDoc.Json

/-- What a reader finds wrong with a JSON text. -/
inductive FaultKind where
  | byteOrderMark
  | value
  | extraData
  | commaDelimiter
  | colonDelimiter
  | propertyName
  | unterminatedString
  | controlCharacter
  | escape
  | unicodeEscape
  deriving DecidableEq, Repr

/-- Why reading stops: the text is malformed where `left` characters were left, an integer has more
digits than are converted, or values are nested too deeply. -/
inductive Fault where
  | malformed (kind : FaultKind) (left : Nat)
  | longInteger
  | tooDeep
  deriving DecidableEq, Repr

/-- A fault with its place in the text. -/
inductive Error where
  | malformed (kind : FaultKind) (line column offset : Nat)
  | longInteger
  | tooDeep
  deriving DecidableEq, Repr

/-- The words for a fault. -/
def FaultKind.message : FaultKind → String
  | .byteOrderMark => "Unexpected UTF-8 BOM (decode using utf-8-sig)"
  | .value => "Expecting value"
  | .extraData => "Extra data"
  | .commaDelimiter => "Expecting ',' delimiter"
  | .colonDelimiter => "Expecting ':' delimiter"
  | .propertyName => "Expecting property name enclosed in double quotes"
  | .unterminatedString => "Unterminated string starting at"
  | .controlCharacter => "Invalid control character at"
  | .escape => "Invalid \\escape"
  | .unicodeEscape => "Invalid \\uXXXX escape"

/-- Line and column, both from one on, of the character that follows `before`. -/
def position (before : List Char) : Nat × Nat :=
  (before.count '\n' + 1, (before.reverse.takeWhile (· != '\n')).length + 1)

/-- The place of a fault in `text`. -/
def Fault.locate (text : List Char) : Fault → Error
  | .malformed kind left =>
    let offset := text.length - left
    let (line, column) := position (text.take offset)
    .malformed kind line column offset
  | .longInteger => .longInteger
  | .tooDeep => .tooDeep

/-- Whether a text breaks the rules of JSON. -/
def Error.isMalformed : Error → Bool
  | .malformed _ _ _ _ => true
  | _ => false

/-- A fault and its place in words. -/
def Error.message : Error → String
  | .malformed kind line column offset =>
    s!"{kind.message}: line {toString line} column {toString column} (char {toString offset})"
  | .longInteger => "Exceeds the limit (4300 digits) for integer string conversion"
  | .tooDeep => "values are nested too deeply"

end ScriptDoc.Json
