import ScriptDoc.Command.Run
import ScriptDoc.Command.Usage

/-!
# The program

`Program.run` takes the words of a command line and gives what is printed, the exit code and the files
afterwards.  A failure is reported in one line.  An accident leaves a crash log among the user's data;
only if that cannot be written does the program itself end in an accident.
-/

namespace ScriptDoc

/-- How a run of the program ends. -/
structure Ending where
  exitCode : Nat
  printed : Printed := {}
  deriving DecidableEq, Repr

namespace Program

/-- The words for an accident. -/
def accidentText : Accident → String
  | .longInteger => "an integer has too many digits"
  | .deepNesting => "values are nested too deeply"
  | .wideIndent => "an indentation is too wide"
  | .yamlScalar _ => "a node has no value"
  | .undecodableSettings e => e.message
  | .sectionNotAnObject => "a section of the settings is not an object"
  | .badPattern _ => "a line is not an ignore pattern"
  | .files f => f.message
  | .badAddress url => "no text can be had from " ++ url
  | .homeUnknown => "the home directory is not known"
  | .unknownFormat => "an output format is not known"
  | .badMarkup _ => "the markup of a text does not fit together"

/-- Leaves a crash log, and gives its path. -/
def writeCrashLog (a : Accident) : Work Path := do
  let logs := (← Settings.dataDirectory).child "logs"
  Work.change (·.makeDirectories logs)
  let p := logs.child ("crash-" ++ (← Work.surroundings).timeStamp ++ ".log")
  Work.change (·.overwrite p ("Unexpected error: " ++ accidentText a ++ "\n"))
  return p

/-- The console that the options ask for. -/
def consoleFor (s : Surroundings) (o : GlobalOptions) : Console :=
  let request := if o.json then some .json else if o.plain then some .plain else none
  Console.forRequest s request o.noColour o.quiet o.verbose

/-- Ends after an accident. -/
def crash (c : Console) (s : Surroundings) (before : Printed) (w : Workspace) (a : Accident) :
    Except Accident Ending × Workspace :=
  match writeCrashLog a s w with
  | (.ok p, w) =>
    (.ok ⟨1, before ++ c.error s!"Unexpected error. Debug log: {p.text}"⟩, w)
  | (.error (.accident b), w) => (.error b, w)
  | (.error (.failure _), w) => (.error a, w)

/-- Runs a command to its end. -/
def runCommand (s : Surroundings) (o : GlobalOptions) (command : Command) (w : Workspace) :
    Except Accident Ending × Workspace :=
  let c := consoleFor s o
  let e := command.run c s w
  match e.result with
  | .ok _ => (.ok ⟨0, e.printed⟩, e.workspace)
  | .error (.exit code) => (.ok ⟨code, e.printed⟩, e.workspace)
  | .error (.trouble (.failure f)) =>
    (.ok ⟨f.exitCode, e.printed ++ c.error f.message⟩, e.workspace)
  | .error (.trouble (.accident a)) => crash c s e.printed e.workspace a

/-- Runs the program on the words of a command line. -/
def run (s : Surroundings) (words : List String) (w : Workspace) :
    Except Accident Ending × Workspace :=
  match Invocation.ofWords words with
  | .version => (.ok ⟨0, { out := Usage.version ++ "\n" }⟩, w)
  | .help names => (.ok ⟨0, { out := Usage.screen names }⟩, w)
  | .bare names => (.ok ⟨2, { out := Usage.screen names }⟩, w)
  | .mistake names e => (.ok ⟨2, { err := Usage.complaint names e }⟩, w)
  | .command o command => runCommand s o command w

end Program

end ScriptDoc
