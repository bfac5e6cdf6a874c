/-!
# Documentation records

The records of a documentation document: functions with their parameters, enums with their
members, globals, and the document that holds them.  A document lists its functions by category.
-/

namespace ScriptDoc

/-- A documented argument of a function. -/
structure Parameter where
  name : String
  typeName : String
  description : Option String := none
  required : Bool := true
  deriving DecidableEq, Repr

/-- What is known of one script function. Its name is its identity. -/
structure FunctionRecord where
  name : String
  shortDescription : Option String := none
  extendedDescription : List String := []
  usage : Option String := none
  returnType : Option String := none
  returnDescription : Option String := none
  parameters : List Parameter := []
  /-- The source unit that documents the function. -/
  origin : Option String := none
  groups : List String := []
  deriving DecidableEq, Repr

/-- A named group of functions. -/
structure Category where
  name : String
  functions : List FunctionRecord := []
  deriving DecidableEq, Repr

/-- A member of an enum. -/
structure EnumMember where
  name : String
  value : Option String := none
  deriving DecidableEq, Repr

/-- An enum. The order of its members means nothing. -/
structure EnumRecord where
  name : String
  members : List EnumMember := []
  deriving DecidableEq, Repr

/-- A global variable that scripts can use. -/
structure GlobalRecord where
  name : String
  value : Option String := none
  description : Option String := none
  typeName : Option String := none
  deriving DecidableEq, Repr

/-- A documentation document. -/
structure Document where
  categories : List Category := []
  enums : List EnumRecord := []
  globals : List GlobalRecord := []
  deriving DecidableEq, Repr

/-- The document without records. -/
def Document.empty : Document := {}

/-- All functions, category by category. -/
def Document.functions (d : Document) : List FunctionRecord := d.categories.flatMap (·.functions)

@[simp] theorem Document.functions_empty : Document.empty.functions = [] := rfl

end ScriptDoc
