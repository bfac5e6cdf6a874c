import ScriptDoc.Command.Words
import ScriptDoc.Text.Word

/-!
# What a command line asks for

`Invocation.ofWords` finds the command that the words of a command line name, with its options.  The
options for help and for the version win over what is missing, and the first one of them given wins;
but words that are no options at all are an error before that.
-/

namespace ScriptDoc

open ScriptDoc.Text (isWordChar)

/-- What of a document is listed. -/
inductive Listing where
  | categories
  /-- The functions, of one category if it is named. -/
  | functions (category : Option String)
  | enums
  | globals
  deriving DecidableEq, Repr

/-- Where a document goes: the path given, and whether it is printed instead. -/
structure Destination where
  path : Option String := none
  standardOutput : Bool := false
  deriving DecidableEq, Repr

/-- The commands. -/
inductive Command where
  /-- Generate a document from the script files below a directory. -/
  | generate (directory : String) (marker : Option String) (strict : Option Bool)
      (extensions : List String) (destination : Destination)
  /-- List the documented functions of a script file. -/
  | parse (source : String) (marker : Option String) (strict : Option Bool)
  /-- Convert a dump to a document. -/
  | dump (file : String) (dedupe : Bool) (destination : Destination)
  /-- Merge documents. -/
  | merge (documents : List String) (cumulative : Bool) (destination : Destination)
  /-- List what a document holds. -/
  | inspect (listing : Listing) (document : String)
  /-- Show the effective settings. -/
  | showSettings
  /-- Show where the global settings are kept. -/
  | settingsPath
  deriving DecidableEq, Repr

/-- The options that stand before the command. -/
structure GlobalOptions where
  json : Bool := false
  plain : Bool := false
  noColour : Bool := false
  quiet : Bool := false
  verbose : Bool := false
  deriving DecidableEq, Repr

/-- What a command line asks for. A screen of help is for the command of some names. -/
inductive Invocation where
  | version
  | help (names : List String)
  /-- A group of commands without a word after it, which gets help but is an error. -/
  | bare (names : List String)
  | mistake (names : List String) (error : WordError)
  | command (options : GlobalOptions) (command : Command)
  deriving DecidableEq, Repr

namespace Invocation

/-- The option for help, which all commands have. -/
def helpOption : OptionSpec := ⟨["--help"], false⟩

/-- The options before the command. -/
def globalOptions : List OptionSpec :=
  [helpOption, ⟨["--version"], false⟩, ⟨["--json"], false⟩, ⟨["--plain"], false⟩,
    ⟨["--no-color"], false⟩, ⟨["--quiet", "-q"], false⟩, ⟨["--verbose", "-v"], false⟩]

/-- The options for a destination. -/
def destinationOptions : List OptionSpec := [⟨["--out"], true⟩, ⟨["--stdout"], false⟩]

/-- The options for reading script files. -/
def readingOptions : List OptionSpec :=
  [⟨["--marker"], true⟩, ⟨["--strict"], false⟩, ⟨["--no-strict"], false⟩]

/-- The destination that options give. -/
def destination (w : Words) : Destination := ⟨w.value? "--out", w.has "--stdout"⟩

/-- A command of its own: its options, and how sorted words are read. -/
structure CommandSpec where
  options : List OptionSpec := []
  read : Words → Except WordError Command

/-- The commands that stand alone. -/
def commands : List (String × CommandSpec) :=
  [("generate", ⟨readingOptions ++ destinationOptions ++ [⟨["--ext"], true⟩], fun w => do
      return .generate (← w.onlyOperand "DIRECTORY") (w.value? "--marker")
        (w.choice? "--strict" "--no-strict") (w.values "--ext") (destination w)⟩),
    ("parse", ⟨readingOptions, fun w => do
      return .parse (← w.onlyOperand "SOURCE") (w.value? "--marker")
        (w.choice? "--strict" "--no-strict")⟩),
    ("dump", ⟨destinationOptions ++ [⟨["--dedupe-enums"], false⟩], fun w => do
      return .dump (← w.onlyOperand "DUMP_FILE") (w.has "--dedupe-enums") (destination w)⟩),
    ("merge", ⟨destinationOptions ++ [⟨["--cumulative"], false⟩], fun w =>
      if w.operands.isEmpty then .error (.missingOperand "DOCUMENTS")
      else .ok (.merge w.operands (w.has "--cumulative") (destination w))⟩)]

/-- The listings of documents. -/
def listings : List (String × CommandSpec) :=
  [("categories", ⟨[], fun w => (w.onlyOperand "DOCUMENT").map (.inspect .categories)⟩),
    ("functions", ⟨[⟨["--category", "-c"], true⟩], fun w =>
      (w.onlyOperand "DOCUMENT").map (.inspect (.functions (w.value? "--category")))⟩),
    ("enums", ⟨[], fun w => (w.onlyOperand "DOCUMENT").map (.inspect .enums)⟩),
    ("globals", ⟨[], fun w => (w.onlyOperand "DOCUMENT").map (.inspect .globals)⟩)]

/-- The commands on settings. -/
def settingsCommands : List (String × CommandSpec) :=
  [("show", ⟨[], fun w => w.noOperands.map fun _ => .showSettings⟩),
    ("path", ⟨[], fun w => w.noOperands.map fun _ => .settingsPath⟩)]

/-- The groups of commands. -/
def groups : List (String × List (String × CommandSpec)) :=
  [("inspect", listings), ("config", settingsCommands)]

/-- What the first option for help or the version asks for. -/
def screen? (names : List String) (w : Words) : Option Invocation :=
  w.options.findSome? fun o =>
    if o.name == "--help" then some (.help names)
    else if o.name == "--version" then some .version
    else none

/-- Whether a word that names no command is read once more as if it were an option. -/
def looksLikeOption (word : String) : Bool :=
  match word.toList with
  | [] => false
  | c :: _ => !isWordChar c || c == '_'

/-- What is asked for when a word names no command. If it looks like an option, it and the words after it
are sorted once more, and help or the version may still be asked for. -/
def unknownCommand (names : List String) (specs : List OptionSpec) (word : String)
    (rest : List String) : Invocation :=
  let mistake := Invocation.mistake names (.unknownCommand word)
  if looksLikeOption word then
    match Words.sortLeading specs (word :: rest) with
    | .error e => .mistake names e
    | .ok w => (screen? names w).getD mistake
  else mistake

/-- A command with the words after its name. -/
def ofCommand (options : GlobalOptions) (names : List String) (spec : CommandSpec)
    (words : List String) : Invocation :=
  match Words.sort (helpOption :: spec.options) words with
  | .error e => .mistake names e
  | .ok w =>
    (screen? names w).getD <|
      match spec.read w with
      | .ok c => .command options c
      | .error e => .mistake names e

/-- A group of commands with the words after its name. -/
def ofGroup (options : GlobalOptions) (name : String) (members : List (String × CommandSpec))
    (words : List String) : Invocation :=
  if words.isEmpty then .bare [name]
  else
    match Words.sortLeading [helpOption] words with
    | .error e => .mistake [name] e
    | .ok w =>
      (screen? [name] w).getD <|
        match w.operands with
        | [] => .mistake [name] .missingCommand
        | word :: rest =>
          match members.lookup word with
          | some spec => ofCommand options [name, word] spec rest
          | none => unknownCommand [name] [helpOption] word rest

/-- The options before a command. -/
def optionsOf (w : Words) : GlobalOptions :=
  ⟨w.has "--json", w.has "--plain", w.has "--no-color", w.has "--quiet", w.has "--verbose"⟩

/-- What the words of a command line ask for. -/
def ofWords (words : List String) : Invocation :=
  if words.isEmpty then .bare []
  else
    match Words.sortLeading globalOptions words with
    | .error e => .mistake [] e
    | .ok w =>
      (screen? [] w).getD <|
        match w.operands with
        | [] => .mistake [] .missingCommand
        | word :: rest =>
          match commands.lookup word, groups.lookup word with
          | some spec, _ => ofCommand (optionsOf w) [word] spec rest
          | none, some members => ofGroup (optionsOf w) word members rest
          | none, none => unknownCommand [] globalOptions word rest

end Invocation

end ScriptDoc
