import Labeling.CommandLine.Run

/-!
# The program

The outer layer: reads the files of a command, prints its outcome and writes its file. Everything
else is `Labeling.CommandLine`.
-/
namespace Labeling.CommandLine

/-- What an error of the system means for a file. -/
def faultOf : IO.Error → FileFault
  | .noFileOrDirectory _ _ _ => .missing
  | .inappropriateType _ _ _ => .isDirectory
  | .invalidArgument _ 36 _ => .tooLong
  | error => .other (toString error)

/-- Read a file. -/
def load (path : String) : IO (Except FileFault String) := do
  try return .ok (← IO.FS.readFile path)
  catch error => return .error (faultOf error)

/-- Write a file. -/
def save (path text : String) : IO (Except FileFault Unit) := do
  try
    IO.FS.writeFile path text
    return .ok ()
  catch error => return .error (faultOf error)

/-- Read the files of a request. -/
def loadInputs : Request → IO FileReader
  | .run command => do
    let loaded ← command.inputs.mapM fun path => return (path, ← load path)
    return fun path => (loaded.lookup path).getD (.error .missing)
  | _ => return fun _ => .error .missing

/-- Carry out what arguments ask for; tells the exit code. -/
def runProgram (arguments : List String) : IO UInt32 := do
  let request := read arguments
  let outcome := request.outcome (← loadInputs request)
  let outcome ← match outcome.file with
    | none => pure outcome
    | some (path, text) => outcome.finished <$> save path text
  IO.print outcome.stdout
  outcome.messages.forM fun message => IO.eprintln message
  return UInt32.ofNat outcome.code

end Labeling.CommandLine

/-- The program. -/
def main (arguments : List String) : IO UInt32 := Labeling.CommandLine.runProgram arguments
