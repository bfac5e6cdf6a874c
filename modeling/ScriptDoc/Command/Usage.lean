import ScriptDoc.Command.Invocation

/-!
# Screens of help
-/

namespace ScriptDoc.Usage

/-- The name and version of the program. -/
def version : String := "scardoc 0.3.0"

/-- What follows the name of a command. -/
def synopsis : List String → String
  | [] => "[OPTIONS] COMMAND [ARGS]..."
  | ["generate"] => "[OPTIONS] DIRECTORY"
  | ["parse"] => "[OPTIONS] SOURCE"
  | ["dump"] => "[OPTIONS] DUMP_FILE"
  | ["merge"] => "[OPTIONS] DOCUMENTS..."
  | ["inspect"] => "[OPTIONS] COMMAND [ARGS]..."
  | ["config"] => "[OPTIONS] COMMAND [ARGS]..."
  | ["inspect", _] => "[OPTIONS] DOCUMENT"
  | _ => "[OPTIONS]"

/-- What a command does, and the words that may follow it. -/
def description : List String → List String
  | [] =>
    ["Extract, import, and merge SCAR API documentation.", "",
      "Options: --version --json --plain --no-color --quiet/-q --verbose/-v --help",
      "Commands: generate parse dump merge inspect config"]
  | ["generate"] =>
    ["Generate a canonical document from a source directory.", "",
      "Options: --out PATH --marker TEXT --strict/--no-strict --ext SUFFIX --stdout --help"]
  | ["parse"] =>
    ["List the documented functions of one source file.", "",
      "Options: --marker TEXT --strict/--no-strict --help"]
  | ["dump"] =>
    ["Convert a dump file into a canonical document.", "",
      "Options: --out PATH --dedupe-enums --stdout --help"]
  | ["merge"] =>
    ["Merge canonical documents, later documents taking precedence.", "",
      "Options: --out PATH --cumulative --stdout --help"]
  | ["inspect"] => ["Inspect a canonical document.", "", "Commands: categories functions enums globals"]
  | ["config"] => ["Configuration management.", "", "Commands: show path"]
  | ["inspect", "categories"] => ["List categories and how many functions each holds."]
  | ["inspect", "functions"] =>
    ["List functions with their category, source, and summary.", "",
      "Options: --category/-c NAME --help"]
  | ["inspect", "enums"] => ["List enums with up to five of their values."]
  | ["inspect", "globals"] => ["List globals with their value and type."]
  | ["config", "show"] => ["Show the effective configuration."]
  | ["config", "path"] => ["Print the path of the global configuration file."]
  | _ => []

/-- The first line of a screen. -/
def head (names : List String) : String :=
  "Usage: " ++ " ".intercalate ("scardoc" :: names ++ [synopsis names])

/-- A screen of help. -/
def screen (names : List String) : String :=
  "\n".intercalate ([head names, ""] ++ description names) ++ "\n"

/-- The words for a mistake. -/
def problem : WordError → String
  | .unknownOption name => "No such option: " ++ name
  | .missingValue name => "Option '" ++ name ++ "' requires an argument."
  | .unexpectedValue name => "Option '" ++ name ++ "' does not take a value."
  | .missingOperand name => "Missing argument '" ++ name ++ "'."
  | .extraOperand word => "Got unexpected extra argument (" ++ word ++ ")"
  | .unknownCommand name => "No such command '" ++ name ++ "'."
  | .missingCommand => "Missing command."

/-- The report of a mistake. -/
def complaint (names : List String) (e : WordError) : String :=
  head names ++ "\nError: " ++ problem e ++ "\n"

end ScriptDoc.Usage
