import ScriptDoc.Document.Record

/-!
# Categories

The category of a function follows from its record: what stands in its name before the first low
line, else before the first colon, else its first group, else `Other`.  `categorize` partitions a
list of functions: the categories are sorted by name, and within each the functions keep their
order.
-/

namespace ScriptDoc

/-- What stands before the first occurrence of a character, if there is one. -/
def before? (c : Char) (s : String) : Option String :=
  let cs := s.toList
  if cs.contains c then some (String.ofList (cs.takeWhile (· != c))) else none

/-- The name of the category of a function. -/
def FunctionRecord.categoryKey (f : FunctionRecord) : String :=
  match before? '_' f.name with
  | some key => key
  | none =>
    match before? ':' f.name with
    | some key => key
    | none => f.groups.headD "Other"

/-- The distinct category names of functions, in increasing order. -/
def categoryNames (fs : List FunctionRecord) : List String :=
  (fs.map (·.categoryKey)).eraseDups.mergeSort (fun a b => decide (a ≤ b))

/-- The functions of a list that belong to a category. -/
def members (fs : List FunctionRecord) (key : String) : List FunctionRecord :=
  fs.filter (·.categoryKey == key)

/-- The categories of a list of functions. -/
def categorize (fs : List FunctionRecord) : List Category :=
  (categoryNames fs).map fun key => ⟨key, members fs key⟩

/-- A document of functions alone. -/
def Document.ofFunctions (fs : List FunctionRecord) : Document := { categories := categorize fs }

end ScriptDoc
