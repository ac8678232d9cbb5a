import Tablespace.Command.Line
import Tablespace.Files.Workspace

/-!
# Running the program

A run reads the command line, creates the file for the output if one is named, reads the files of
the command, and writes what the command has to say.
-/

namespace Tablespace

/-- What a run leaves behind besides files. -/
structure Outcome where
  /-- The exit code. -/
  exit : Nat := 0
  /-- The text on the output. -/
  output : String := ""
  /-- The text about errors. -/
  errors : String := ""
  deriving DecidableEq, Repr

namespace Outcome

/-- The outcome of an error. -/
def ofError (e : Error) : Outcome := { exit := 1, errors := "Error: " ++ e.message ++ "\n" }

/-- The outcome of a command that has written its text elsewhere. -/
def ofWritten (transcript : Transcript) : Outcome := (transcript.error.map ofError).getD {}

/-- How the program is used. -/
def usage : String := unlines [
  "Usage: ibread [OPTIONS] page -s FILES [-p PAGE] [--hex] [--json]",
  "       ibread [OPTIONS] system-spaces -s FILES [--json]",
  "       ibread [OPTIONS] records -s FILES (-t TABLE [-i INDEX] | --root PAGE)",
  "                        [--tablespace FILE] [--skip-errors] [--json]",
  "Options: --color auto|always|never, -o FILE, -v, --mmap, -h, -V"]

/-- The outcome of a line that leads to no command. -/
def ofStop : LineStop → Outcome
  | .refused => { exit := 2, errors := usage }
  | .help => { output := usage }
  | .version => { output := "ibread 0.3.0\n" }

end Outcome

namespace Invocation

variable {m : Type → Type} [Monad m]

/-- The contents of files. -/
def load (access : FileAccess m) (mapped : Bool) :
    List String → m (List (String × Except IoFault ByteArray))
  | [] => return []
  | name :: names => do
    let bytes ← access.read mapped name
    return (name, bytes) :: (← load access mapped names)

/-- Contents as a function of the name; only names that were loaded are ever asked for. -/
def contentsOf (files : List (String × Except IoFault ByteArray)) : Contents := fun name =>
  (files.lookup name).getD (.error (.cannotOpen name Refusal.missing.reason))

/-- Read the files of the command, run it and write its text. -/
def runCommand (access : FileAccess m) (terminal : Bool) (invocation : Invocation) : m Outcome := do
  let files ← load access invocation.mapped invocation.command.inputs
  let styled := invocation.color.isStyled terminal
  let written := invocation.command.run (contentsOf files) styled
  match invocation.output with
  | none => return { Outcome.ofWritten written with output := written.text }
  | some path =>
    match ← access.write path written.text with
    | .error fault => return .ofError (.io fault)
    | .ok () => return .ofWritten written

/-- Run a command, after the file for its output was created. -/
def run (access : FileAccess m) (terminal : Bool) (invocation : Invocation) : m Outcome := do
  match invocation.output with
  | none => invocation.runCommand access terminal
  | some path =>
    match ← access.create path with
    | .error fault => return .ofError (.io fault)
    | .ok () => invocation.runCommand access terminal

/-- Run the command that the words of a line describe. -/
def runWords (access : FileAccess m) (terminal : Bool) (words : List String) : m Outcome :=
  match ofWords words with
  | .error stop => return .ofStop stop
  | .ok invocation => invocation.run access terminal

end Invocation

namespace Workspace

/-- Run the command that the words of a line describe in a workspace, where no stream is a terminal.
What the run writes to the standard streams comes after what it has written to their devices. -/
def run (workspace : Workspace) (words : List String) : Outcome × Workspace :=
  let (outcome, after) := (Invocation.runWords access false words).run workspace
  let output := after.output ++ outcome.output
  let errors := after.errors ++ outcome.errors
  ({ outcome with output, errors }, after)

end Workspace

end Tablespace
