/-!
# Words of a command line

The words after the name of a program are options and operands.  An option may take a value: the rest
of its word (after an equals sign, or directly after a letter), or the next word whatever it is.
Several options of one letter may share a word, and after two hyphens no word is an option.
-/

namespace ScriptDoc

/-- An option of a command. -/
structure OptionSpec where
  /-- Its names; the first one tells it from others. -/
  names : List String
  takesValue : Bool := false
  deriving DecidableEq, Repr

/-- Why words do not fit a command. -/
inductive WordError where
  | unknownOption (name : String)
  | missingValue (name : String)
  | unexpectedValue (name : String)
  | missingOperand (name : String)
  | extraOperand (word : String)
  | unknownCommand (name : String)
  | missingCommand
  deriving DecidableEq, Repr

/-- An option that is given, by its first name, with its value. -/
structure GivenOption where
  name : String
  value : Option String := none
  deriving DecidableEq, Repr

/-- Words that have been sorted. -/
structure Words where
  options : List GivenOption := []
  operands : List String := []
  deriving DecidableEq, Repr

namespace OptionSpec

/-- The option of a name. -/
def find? (specs : List OptionSpec) (name : String) : Option OptionSpec :=
  specs.find? fun s => s.names.contains name

/-- The name that tells an option from others. -/
def mainName (s : OptionSpec) : String := s.names.headD ""

end OptionSpec

/-- The options of one word, and the name of one that still needs a value. -/
abbrev WordOptions := List GivenOption × Option String

namespace Words

/-- The options of letters that share a word. -/
def letterOptions (specs : List OptionSpec) : List Char → Except WordError WordOptions
  | [] => .ok ([], none)
  | c :: rest =>
    let name := String.ofList ['-', c]
    match OptionSpec.find? specs name with
    | none => .error (.unknownOption name)
    | some s =>
      if s.takesValue then
        if rest.isEmpty then .ok ([], some s.mainName)
        else .ok ([⟨s.mainName, some (String.ofList rest)⟩], none)
      else (letterOptions specs rest).map fun r => (⟨s.mainName, none⟩ :: r.1, r.2)

/-- The option of a word that is its full name, perhaps with an equals sign and a value. -/
def namedOption (s : OptionSpec) (value : Option String) : Except WordError WordOptions :=
  if s.takesValue then
    match value with
    | some v => .ok ([⟨s.mainName, some v⟩], none)
    | none => .ok ([], some s.mainName)
  else if value.isSome then .error (.unexpectedValue s.mainName)
  else .ok ([⟨s.mainName, none⟩], none)

/-- Whether a name is one of two hyphens, or one that takes more than a letter. -/
def isLongName (name : List Char) : Bool := name.length > 2 || name == ['-', '-']

/-- The options of a word that starts with a hyphen. -/
def wordOptions (specs : List OptionSpec) (word : List Char) : Except WordError WordOptions :=
  let name := word.takeWhile (· != '=')
  let value := if word.contains '=' then some (String.ofList (word.drop (name.length + 1))) else none
  match if isLongName name then OptionSpec.find? specs (String.ofList name) else none with
  | some s => namedOption s value
  | none =>
    if ['-', '-'].isPrefixOf word then .error (.unknownOption (String.ofList name))
    else letterOptions specs (word.drop 1)

/-- Whether a word starts an option. -/
def isOption (word : List Char) : Bool :=
  match word with
  | '-' :: _ :: _ => true
  | _ => false

/-- Sorts words. The option `pending` takes the first word as its value. Unless operands may stand
among options, the first operand ends them. -/
def sortFrom (specs : List OptionSpec) (mixed : Bool) (pending : Option String) :
    List String → Except WordError Words
  | [] =>
    match pending with
    | some name => .error (.missingValue name)
    | none => .ok {}
  | word :: rest =>
    match pending with
    | some name =>
      (sortFrom specs mixed none rest).map fun w =>
        { w with options := ⟨name, some word⟩ :: w.options }
    | none =>
      if word == "--" then .ok { operands := rest }
      else if isOption word.toList then
        match wordOptions specs word.toList with
        | .error e => .error e
        | .ok (given, pending) =>
          (sortFrom specs mixed pending rest).map fun w => { w with options := given ++ w.options }
      else if mixed then
        (sortFrom specs mixed none rest).map fun w => { w with operands := word :: w.operands }
      else .ok { operands := word :: rest }

/-- Sorts the words of a command, where operands may stand among options. -/
def sort (specs : List OptionSpec) (words : List String) : Except WordError Words :=
  sortFrom specs true none words

/-- Sorts the words of a group of commands: options come first. -/
def sortLeading (specs : List OptionSpec) (words : List String) : Except WordError Words :=
  sortFrom specs false none words

/-- Whether an option is given. -/
def has (w : Words) (name : String) : Bool := w.options.any (·.name == name)

/-- The values of an option, in their order. -/
def values (w : Words) (name : String) : List String :=
  w.options.filterMap fun o => if o.name == name then o.value else none

/-- The last value of an option. -/
def value? (w : Words) (name : String) : Option String := (w.values name).getLast?

/-- The last one of two options that exclude each other: whether it is the first of them. -/
def choice? (w : Words) (yes no : String) : Option Bool :=
  ((w.options.filter fun o => o.name == yes || o.name == no).getLast?).map (·.name == yes)

/-- The only operand. -/
def onlyOperand (w : Words) (name : String) : Except WordError String :=
  match w.operands with
  | [] => .error (.missingOperand name)
  | [x] => .ok x
  | _ :: extra :: _ => .error (.extraOperand extra)

/-- Refuses operands. -/
def noOperands (w : Words) : Except WordError Unit :=
  match w.operands with
  | [] => .ok ()
  | extra :: _ => .error (.extraOperand extra)

end Words

end ScriptDoc
