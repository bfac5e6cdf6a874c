/-!
# Problems of a value

What is wrong with a value that should have a certain shape, and where in the value: a path of
field names and list positions.  `report` is the full text on all problems of one value.
-/

namespace ScriptDoc

/-- A step from a value to one of its parts. -/
inductive Step where
  | field (name : String)
  | item (index : Nat)
  deriving DecidableEq, Repr

/-- What is wrong with a part. -/
inductive ProblemKind where
  | missing
  | notText
  | undecodableText
  | emptyText
  | notList
  /-- The part should be an object of the named kind. -/
  | notObject (model : String)
  | notBool
  | unreadableBool
  | notInteger
  | unreadableInteger
  | oversizedInteger
  | fraction
  | notFinite
  | negative
  deriving DecidableEq, Repr

/-- What is wrong, and where. -/
structure Problem where
  path : List Step
  kind : ProblemKind
  deriving DecidableEq, Repr

namespace ProblemKind

/-- A short tag for a kind of problem. -/
def tag : ProblemKind → String
  | .missing => "missing"
  | .notText => "string_type"
  | .undecodableText => "string_unicode"
  | .emptyText => "string_too_short"
  | .notList => "list_type"
  | .notObject _ => "model_type"
  | .notBool => "bool_type"
  | .unreadableBool => "bool_parsing"
  | .notInteger => "int_type"
  | .unreadableInteger => "int_parsing"
  | .oversizedInteger => "int_parsing_size"
  | .fraction => "int_from_float"
  | .notFinite => "finite_number"
  | .negative => "greater_than_equal"

/-- A sentence on a kind of problem. -/
def message : ProblemKind → String
  | .missing => "Field required"
  | .notText => "Input should be a valid string"
  | .undecodableText =>
    "Input should be a valid string, unable to parse raw data as a unicode string"
  | .emptyText => "String should have at least 1 character"
  | .notList => "Input should be a valid list"
  | .notObject model => "Input should be a valid dictionary or instance of " ++ model
  | .notBool => "Input should be a valid boolean"
  | .unreadableBool => "Input should be a valid boolean, unable to interpret input"
  | .notInteger => "Input should be a valid integer"
  | .unreadableInteger => "Input should be a valid integer, unable to parse string as an integer"
  | .oversizedInteger => "Unable to parse input string as an integer, exceeded maximum size"
  | .fraction => "Input should be a valid integer, got a number with a fractional part"
  | .notFinite => "Input should be a finite number"
  | .negative => "Input should be greater than or equal to 0"

end ProblemKind

/-- A step in words. -/
def Step.text : Step → String
  | .field name => name
  | .item index => toString index

/-- The place and the sentence of a problem, on two lines. -/
def Problem.text (p : Problem) : String :=
  ".".intercalate (p.path.map Step.text) ++ "\n  " ++ p.kind.message ++ " [type=" ++ p.kind.tag ++ "]"

/-- The first line of a report. -/
def reportHead (model : String) (problems : List Problem) : String :=
  let noun := if problems.length == 1 then "error" else "errors"
  toString problems.length ++ " validation " ++ noun ++ " for " ++ model

/-- A report on all problems of a value that should be a `model`. -/
def report (model : String) (problems : List Problem) : String :=
  "\n".intercalate (reportHead model problems :: problems.map Problem.text)

end ScriptDoc
