import ScriptDoc.Text.CodeUnit
import ScriptDoc.Text.Utf8
import ScriptDoc.Text.Word
import ScriptDoc.Yaml.Scalar.Block
import ScriptDoc.Yaml.Token

/-!
# Anchors, tags and directives

The tokens that say something about a node or a document rather than being part of it.
-/

namespace ScriptDoc.Yaml

open ScriptDoc.Text

/-- The characters of names. -/
def isNameChar (c : Char) : Bool := c.isAlphanum || c == '-' || c == '_'

/-- The characters at the front that are of a class, and what follows them. -/
def takeChars (p : Char → Bool) (s : List Spot) : List Char × List Spot :=
  (chars (s.takeWhile fun x => p x.char), s.dropWhile fun x => p x.char)

/-- A blank or a line end: what has to follow a tag or the name of a directive. -/
def isSpaceOrBreak (c : Char) : Bool := c == ' ' || isBreak c

/-- What may follow the name of an anchor. -/
def mayFollowAnchor (c : Char) : Bool :=
  isGap c || ['?', ':', ',', ']', '\x7d', '%', '@', '`'].contains c

/-- The name of an anchor or alias, of which `s` follows the first character. -/
def anchorName (s : List Spot) : Except Error (String × List Spot) :=
  let (name, rest) := takeChars isNameChar s
  if name.isEmpty || !endsOrIn mayFollowAnchor rest then .error (.malformed .badAnchor)
  else .ok (String.ofList name, rest)

/-- The characters of tags. -/
def isUriChar (c : Char) : Bool := c.isAlphanum || "-;/?:@&=+$,_.!~*'()[]%".toList.contains c

/-- The bytes of the escapes at the front: a percent sign and two hexadecimal digits each. -/
def percentBytes : List Spot → Except Error (List UInt8 × List Spot)
  | p :: a :: b :: rest =>
    if p.char == '%' then
      match hexDigit? a.char, hexDigit? b.char with
      | some x, some y => do
        let (bytes, after) ← percentBytes rest
        return (UInt8.ofNat (16 * x + y) :: bytes, after)
      | _, _ => .error (.malformed .badTag)
    else .ok ([], p :: a :: b :: rest)
  | s => if startsIn (· == '%') s then .error (.malformed .badTag) else .ok ([], s)

/-- The characters of a tag at the front, at most `fuel`. -/
def uriChars : Nat → List Spot → Except Error (List Char × List Spot)
  | fuel + 1, p :: rest =>
    if p.char == '%' then do
      let (bytes, afterBytes) ← percentBytes (p :: rest)
      match Utf8.decode bytes with
      | .ok cs =>
        let (others, after) ← uriChars fuel afterBytes
        return (cs ++ others, after)
      | .error _ => .error (.malformed .badTag)
    else if isUriChar p.char then do
      let (others, after) ← uriChars fuel rest
      return (p.char :: others, after)
    else .ok ([], p :: rest)
  | _, s => .ok ([], s)

/-- The characters of a tag at the front; there is at least one. -/
def uri (s : List Spot) : Except Error (String × List Spot) := do
  let (cs, rest) ← uriChars s.length s
  if cs.isEmpty then .error (.malformed .badTag) else return (String.ofList cs, rest)

/-- The handle at the front: an exclamation mark, or a name between two. -/
def tagHandle (s : List Spot) : Except Error (String × List Spot) :=
  match s with
  | p :: rest =>
    if p.char != '!' then .error (.malformed .badTag)
    else if startsIn (· == ' ') rest then .ok ("!", rest)
    else
      let (name, afterName) := takeChars isNameChar rest
      if startsIn (· == '!') afterName then
        .ok (String.ofList ('!' :: name ++ ['!']), afterName.drop 1)
      else .error (.malformed .badTag)
  | [] => .error (.malformed .badTag)

/-- A tag in angle brackets, of which `s` follows the opening one. -/
def verbatimTag (s : List Spot) : Except Error (Token × List Spot) := do
  let (suffix, rest) ← uri s
  if startsIn (· == '>') rest then return (.tag none suffix, rest.drop 1)
  else .error (.malformed .badTag)

/-- A tag with a handle. The handle is a name between exclamation marks if a second one stands in the
tag, else the first one alone. -/
def shorthandTag (s : List Spot) : Except Error (Token × List Spot) := do
  let named := ((s.drop 1).takeWhile fun p => !isSpaceOrBreak p.char).any fun p => p.char == '!'
  let (handle, afterHandle) ← if named then tagHandle s else .ok ("!", s.drop 1)
  let (suffix, rest) ← uri afterHandle
  return (.tag (some handle) suffix, rest)

/-- The tag at the front, which starts with an exclamation mark. -/
def tagToken (s : List Spot) : Except Error (Token × List Spot) := do
  let (token, rest) ←
    if startsIn (· == '<') (s.drop 1) then verbatimTag (s.drop 2)
    else if endsOrIn isGap (s.drop 1) then .ok (.tag none "!", s.drop 1)
    else shorthandTag s
  if endsOrIn isSpaceOrBreak rest then return (token, rest) else .error (.malformed .badTag)

/-- The digits at the front as a number. -/
def versionNumber (s : List Spot) : Except Error (Nat × List Spot) :=
  let (digits, rest) := takeChars isAsciiDigit s
  if digits.isEmpty then .error (.malformed .badDirective)
  else if digits.length > 4300 then .error .longInteger
  else .ok (decimalValue digits, rest)

/-- Drops blanks. -/
def dropSpaces (s : List Spot) : List Spot := s.dropWhile fun p => p.char == ' '

/-- The version after the name of a version directive. -/
def versionDirective (s : List Spot) : Except Error (Directive × List Spot) := do
  let (major, afterMajor) ← versionNumber (dropSpaces s)
  if !startsIn (· == '.') afterMajor then .error (.malformed .badDirective)
  let (minor, rest) ← versionNumber (afterMajor.drop 1)
  if endsOrIn isSpaceOrBreak rest then return (.version major minor, rest)
  else .error (.malformed .badDirective)

/-- The handle and its expansion after the name of a tag directive. -/
def tagDirective (s : List Spot) : Except Error (Directive × List Spot) := do
  let (handle, afterHandle) ← tagHandle (dropSpaces s)
  if !startsIn (· == ' ') afterHandle then .error (.malformed .badDirective)
  let (expansion, rest) ← uri (dropSpaces afterHandle)
  if endsOrIn isSpaceOrBreak rest then return (.tagHandle handle expansion, rest)
  else .error (.malformed .badDirective)

/-- The directive of which `s` follows the first character. It takes its whole line. -/
def directive (s : List Spot) : Except Error (Directive × List Spot) := do
  let (name, afterName) := takeChars isNameChar s
  if name.isEmpty || !endsOrIn isSpaceOrBreak afterName then .error (.malformed .badDirective)
  let (d, rest) ←
    match String.ofList name with
    | "YAML" => versionDirective afterName
    | "TAG" => tagDirective afterName
    | other => .ok (.other other, afterName.dropWhile fun p => !isBreak p.char)
  return (d, ← restOfLine .badDirective rest)

end ScriptDoc.Yaml
