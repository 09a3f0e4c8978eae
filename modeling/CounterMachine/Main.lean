import CounterMachine.CommandLine.Command

/-!
# The program

Reads the file that the options name, if any, and carries out the command.
-/

namespace CounterMachine.CommandLine

/-- What stands under a file name. A path through a file that is no directory leads nowhere. -/
def storedFile (name : String) : IO Listing.StoredFile := do
  try
    return .contents (← IO.FS.readBinFile name)
  catch error =>
    match error with
    | .inappropriateType none _ _ => return .directory
    | .invalidArgument .. => return .nameTooLong
    | _ => return .missing

/-- The file that the arguments name. -/
def namedFile (arguments : List String) : IO Listing.StoredFile :=
  match parseArguments arguments with
  | .ok (some options) =>
      match options.source with
      | .file name => storedFile name
      | _ => return .missing
  | _ => return .missing

/-- The longest row whose entries, of eight bytes each, can all be addressed. -/
def addressableRoom : Int := maxIndex / 8

/-- Say on the error channel why the command has ended, and give its exit code. -/
def conclude : Conclusion → IO UInt32
  | .exit code => return code.toUInt32
  | .misused error => do
      IO.eprintln ("main.py: error: " ++ error.message)
      return 2
  | .failed failure => do
      IO.eprintln failure.message
      return 1

end CounterMachine.CommandLine

def main (arguments : List String) : IO UInt32 := do
  let file ← CounterMachine.CommandLine.namedFile arguments
  let result := CounterMachine.CommandLine.run CounterMachine.CommandLine.addressableRoom
    (fun _ => file) arguments
  IO.print result.output
  CounterMachine.CommandLine.conclude result.conclusion
