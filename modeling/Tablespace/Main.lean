import Tablespace.Command.Run

/-!
# The program

The outermost layer: the files of the machine, the arguments and the standard streams.
-/

namespace Tablespace

/-- The number that the machine gives to an error. -/
def numberOf? : IO.Error → Option UInt32
  | .noFileOrDirectory _ number _ | .permissionDenied _ number _ | .inappropriateType _ number _
  | .resourceExhausted _ number _ | .invalidArgument _ number _ | .noSuchThing _ number _ =>
    some number
  | _ => none

/-- The reason that an error of the machine gives. -/
def reasonOf (e : IO.Error) : String :=
  let refusals : List Refusal :=
    [.missing, .noTerminal, .notMappable, .notFolder, .folder, .full, .tooLong]
  match numberOf? e with
  | none => toString e
  | some 13 => "Permission denied (os error 13)"
  | some number =>
    let ending := s!"(os error {number})"
    ((refusals.map Refusal.reason).find? (·.endsWith ending)).getD (toString e)

/-- What is wrong with a file that could not be read. -/
def readFault (mapped : Bool) (name : String) (e : IO.Error) : IoFault :=
  if reasonOf e ≠ Refusal.folder.reason then .cannotOpen name (reasonOf e)
  else if mapped then .cannotMap name Refusal.notMappable.reason
  else .cannotRead Workspace.folderSize 0 name (reasonOf e)

/-- An action whose errors are answers. -/
def attempt {α : Type} (fault : IO.Error → IoFault) (action : IO α) : IO (Except IoFault α) := do
  match ← action.toBaseIO with
  | .ok a => return .ok a
  | .error e => return .error (fault e)

/-- The files of the machine. -/
def machineFiles : FileAccess IO where
  read mapped name := attempt (readFault mapped name) (IO.FS.readBinFile name)
  create name := attempt (fun e => .cannotCreate name (reasonOf e)) (IO.FS.writeFile name "")
  write name text := attempt (fun e => .cannotWrite (reasonOf e)) do
    IO.FS.withFile name .write fun file => do
      file.putStr text
      file.flush

end Tablespace

/-- Run the program with its arguments. -/
def main (args : List String) : IO UInt32 := do
  let terminal ← (← IO.getStdout).isTty
  let outcome ← Tablespace.Invocation.runWords Tablespace.machineFiles terminal args
  IO.print outcome.output
  IO.eprint outcome.errors
  return outcome.exit.toUInt32
