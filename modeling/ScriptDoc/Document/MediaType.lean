import ScriptDoc.Text.Blank
import ScriptDoc.Text.Charset

/-!
# Media types

The media type that a server gives tells the format of a text and, as a parameter after a semicolon, its
character set.

* `Format`, what is known of the format of a text;
* `MediaType.charset`, the character set of a body, UTF-8 unless another one is known by its name.
-/

namespace ScriptDoc

open ScriptDoc.Text

/-- What is known of the format of a text. -/
inductive Format where
  | json
  | yaml
  | unknown
  deriving DecidableEq, Repr

namespace MediaType

/-- Whether a text occurs in another one. -/
def occursIn (needle haystack : List Char) : Bool :=
  match haystack with
  | [] => needle.isEmpty
  | c :: cs => needle.isPrefixOf (c :: cs) || occursIn needle cs

/-- The format that a media type tells. -/
def format (mediaType : String) : Format :=
  if occursIn "json".toList mediaType.toList then .json
  else if occursIn "yaml".toList mediaType.toList || occursIn "yml".toList mediaType.toList then .yaml
  else .unknown

/-- Splits a text at the semicolons that stand outside of quotes. `before` is the last character, and
`part` holds the characters since the last semicolon, last one first. -/
def splitFrom (quoted : Bool) (before : Option Char) (part : List Char) :
    List Char → List (List Char)
  | [] => [part.reverse]
  | c :: cs =>
    if c == ';' && !quoted then part.reverse :: splitFrom false none [] cs
    else splitFrom (quoted != (c == '"' && before != some '\\')) (some c) (c :: part) cs

/-- A parameter: its name in lower case, and its value. -/
def parameter (part : List Char) : List Char × List Char :=
  let name := part.takeWhile (· != '=')
  ((trim name).map Char.toLower, trim (part.drop (name.length + 1)))

/-- Drops the backslashes before quotes and backslashes. -/
def unescaped : List Char → List Char
  | [] => []
  | '\\' :: c :: cs => if c == '\\' || c == '"' then c :: unescaped cs else '\\' :: unescaped (c :: cs)
  | c :: cs => c :: unescaped cs

/-- A value without the quotes or angle brackets around it. -/
def unquoted (value : List Char) : List Char :=
  let inner := (value.drop 1).dropLast
  if value.length < 2 then value
  else if value.head? == some '"' && value.getLast? == some '"' then unescaped inner
  else if value.head? == some '<' && value.getLast? == some '>' then inner
  else value

/-- The name of the character set that a media type gives. -/
def charsetName? (mediaType : String) : Option String :=
  let parameters := (splitFrom false none [] mediaType.toList).map parameter
  (parameters.lookup "charset".toList).map fun v => String.ofList (unquoted v)

/-- The character set of a body. -/
def charset (mediaType : String) : Charset :=
  ((charsetName? mediaType).bind Charset.ofName?).getD .utf8

end MediaType

end ScriptDoc
