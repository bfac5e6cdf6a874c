/-!
# Faults of a YAML text

A text may break the rules of the language (`Flaw`), or follow them and hold something of which no value
is made (the other cases of `Error`).
-/

namespace ScriptDoc.Yaml

/-- How a text breaks the rules of YAML. -/
inductive Flaw where
  | unprintable (c : Char)
  | strayCharacter (c : Char)
  | unfinishedQuote
  | separatorInQuote
  | unknownEscape
  | badBlockHeader
  | badAnchor
  | badTag
  | badDirective
  | missingColon
  | entryNotAllowed
  | keyNotAllowed
  | valueNotAllowed
  | nodeExpected
  | blockEndExpected
  | commaExpected
  | documentStartExpected
  | wrongVersion
  | repeatedDirective
  | undefinedHandle (handle : String)
  | undefinedAlias (name : String)
  | repeatedAnchor (name : String)
  | severalDocuments
  | unknownTag
  | wrongKind
  | collectionAsKey
  | badMerge
  | badBinary
  deriving DecidableEq, Repr

/-- The words for a flaw. -/
def Flaw.message : Flaw → String
  | .unprintable c => "character U+" ++ String.ofList (Nat.toDigits 16 c.toNat) ++ " is not allowed"
  | .strayCharacter c => "character '" ++ c.toString ++ "' cannot start any token"
  | .unfinishedQuote => "a quoted scalar does not end"
  | .separatorInQuote => "a document separator stands in a quoted scalar"
  | .unknownEscape => "unknown escape in a quoted scalar"
  | .badBlockHeader => "unexpected character after the start of a block scalar"
  | .badAnchor => "an anchor or alias is not a plain name"
  | .badTag => "a tag is not well formed"
  | .badDirective => "a directive is not well formed"
  | .missingColon => "a key is not followed by ':'"
  | .entryNotAllowed => "a sequence entry is not allowed here"
  | .keyNotAllowed => "a mapping key is not allowed here"
  | .valueNotAllowed => "a mapping value is not allowed here"
  | .nodeExpected => "a node was expected"
  | .blockEndExpected => "the end of a block was expected"
  | .commaExpected => "',' or a closing bracket was expected"
  | .documentStartExpected => "the start of a document was expected"
  | .wrongVersion => "only version 1 is understood"
  | .repeatedDirective => "a directive is repeated"
  | .undefinedHandle handle => "tag handle " ++ handle ++ " is not defined"
  | .undefinedAlias name => "alias " ++ name ++ " is not defined"
  | .repeatedAnchor name => "anchor " ++ name ++ " is defined twice"
  | .severalDocuments => "a single document was expected"
  | .unknownTag => "a tag is not known"
  | .wrongKind => "a node is not of the kind that its tag asks for"
  | .collectionAsKey => "a collection is used as a key"
  | .badMerge => "a mapping or a list of mappings was expected for merging"
  | .badBinary => "binary data is not well formed"

/-- Why a YAML text has no value. -/
inductive Error where
  | malformed (flaw : Flaw)
  /-- An integer has more digits than are converted. -/
  | longInteger
  /-- A scalar is not of the form that its tag asks for. -/
  | badScalar
  /-- A scalar tagged as a number has no characters. -/
  | emptyNumber
  /-- A scalar tagged as a truth value is no word for one. -/
  | unknownTruthValue
  /-- A scalar tagged as a date is none. -/
  | unknownDate
  /-- A number is too large for a floating-point number. -/
  | overflow
  /-- An escape gives the number of no character. -/
  | noSuchCharacter (code : Nat)
  /-- A mapping that is tagged as a date has a default value; no date is made of that. -/
  | dateFromMapping
  /-- Collections are nested too deeply, or default values lead to one another without an end. -/
  | tooDeep
  deriving DecidableEq, Repr

end ScriptDoc.Yaml
