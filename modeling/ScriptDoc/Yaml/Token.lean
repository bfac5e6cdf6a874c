import ScriptDoc.Yaml.Error

/-!
# Tokens of YAML

A text is cut into tokens as a reader asks for them, so an error further on in the text counts only if
the reader gets there: a `TokenStream` has the tokens before the error together with it.
-/

namespace ScriptDoc.Yaml

/-- A directive before a document. -/
inductive Directive where
  | version (major minor : Nat)
  | tagHandle (handle expansion : String)
  | other (name : String)
  deriving DecidableEq, Repr

/-- A token. Indentation has become explicit: block collections start and end by tokens. -/
inductive Token where
  | directive (d : Directive)
  | documentStart
  | documentEnd
  | blockSequenceStart
  | blockMappingStart
  | blockEnd
  | flowSequenceStart
  | flowSequenceEnd
  | flowMappingStart
  | flowMappingEnd
  | blockEntry
  | flowEntry
  | key
  | value
  | alias (name : String)
  | anchor (name : String)
  | tag (handle : Option String) (suffix : String)
  | scalar (text : String) (plain : Bool)
  deriving DecidableEq, Repr

/-- All tokens of a text, or those that a reader gets before it meets an error. -/
structure TokenStream where
  tokens : List Token
  failure : Option Error := none
  deriving DecidableEq, Repr

end ScriptDoc.Yaml
