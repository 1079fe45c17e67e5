import Georef.CommandLine.Run

/-!
# The program

Reads the files that the arguments name, runs, and prints what the run leaves.
-/

namespace Georef.CommandLine

/-- The contents of a file. -/
def readStored (path : String) : IO (Except IoFault Bytes) := do
  try
    return .ok (← IO.FS.readBinFile path).data
  catch
    | .noFileOrDirectory .. => return .error .notFound
    | fault => return .error (.denied (toString fault))

/-- The files at paths. -/
def storedFiles (paths : List String) : IO Files := do
  let entries ← paths.mapM fun path => do return (path, ← readStored path)
  return fun path => ((entries.find? fun entry => entry.1 == path).map Prod.snd).getD
    (.error .notFound)

end Georef.CommandLine

open Georef.CommandLine in
/-- The program. -/
def main (arguments : List String) : IO UInt32 := do
  let paths :=
    match Invocation.ofArguments arguments with
    | .ok invocation => invocation.paths
    | .error _ => []
  let output := run (← storedFiles paths) arguments
  IO.print output.printed
  IO.eprint output.reported
  return output.status.toUInt32
