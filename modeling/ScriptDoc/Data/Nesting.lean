/-!
# Limits of nesting

The readers of texts call themselves for each level of nesting, so how deep they come depends on the stack
that they are given.
-/

namespace ScriptDoc

/-- How deep the readers of texts come before they have to give up. What is written by this library is nested
less deeply than any of these numbers allows. The defaults are what a stack of a thousand calls leaves to a
reader that the program calls on the way to a document. -/
structure NestingLimits where
  /-- The deepest nesting of objects and lists in a JSON text. -/
  json : Nat := 990
  /-- The deepest nesting of collections in a YAML text. -/
  yaml : Nat := 488
  /-- How many default values of a YAML text may lead to one another. -/
  defaults : Nat := 980
  json_ge : 16 ≤ json := by decide
  yaml_ge : 16 ≤ yaml := by decide
  defaults_pos : 0 < defaults := by decide

end ScriptDoc
