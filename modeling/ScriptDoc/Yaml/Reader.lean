import ScriptDoc.Data.Nesting
import ScriptDoc.Yaml.Lexer
import ScriptDoc.Yaml.Meaning
import ScriptDoc.Yaml.Node

/-!
# Reading YAML

`Yaml.read` reads a text of one document, in YAML 1.1: the characters in their places become tokens, the
tokens a graph of nodes, and the root of the graph a value.  A text without a document is null.
-/

namespace ScriptDoc.Yaml

/-- Refuses characters that no text may hold. -/
def checkPrintable (text : List Char) : Except Error Unit :=
  match text.find? fun c => !isPrintable c with
  | some c => .error (.malformed (.unprintable c))
  | none => .ok ()

/-- The meaning of the only document of a text. -/
def read (text : List Char) (limits : NestingLimits := {}) : Except Error Meaning := do
  checkPrintable text
  match ← document limits.yaml (tokenStream (locate text)) with
  | none => return ⟨.null, false⟩
  | some (g, root) => g.meaning limits.defaults root

end ScriptDoc.Yaml
