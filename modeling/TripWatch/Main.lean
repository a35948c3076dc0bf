import TripWatch.Command.Startup

/-!
# The program

The command line: it reads arguments, environment and files, starts the program and writes the log
to the standard output and complaints to the standard error. The program has no listener of its
own, so every port is refused.
-/

namespace TripWatch.Command

/-- Reads what stands at a path. -/
def readPath (path : String) : IO FileContent := do
  try
    return .bytes (← IO.FS.readBinFile path).toList
  catch
    | .noFileOrDirectory .. => return .absent
    | .permissionDenied .. => return .locked
    | _ => return .unreadable

end TripWatch.Command

open TripWatch.Command

/-- Starts the program. -/
def main (arguments : List String) : IO UInt32 := do
  let names := TripWatch.Log.Filter.variableName :: Setting.all.map Setting.variableName
  let values ← names.filterMapM fun name => do
    return (← IO.getEnv name).map (name, ·)
  let refuse (_ : UInt16) : IO (Option String) := return some "there is no listener"
  let start ← Start.ofCommand arguments (fun name => values.lookup name) readPath refuse
  for event in start.log do
    IO.println event.line
  for line in start.errors do
    IO.eprintln line
  match start.ending with
  | .helped => IO.print Options.help
  | .misused fault => IO.eprintln ("error: " ++ fault.message)
  | _ => pure ()
  return start.ending.exitCode?.getD 0
