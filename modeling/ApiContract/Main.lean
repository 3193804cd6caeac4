/-
# The program

Reads the files that are named on the command line, prints the log, and ends with a status
that says whether an interface could be built.
-/
import ApiContract.Cli

namespace ApiContract

/-- The contents of a file, if it can be read. -/
def readFile (path : String) : IO (String × Option String) := do
  try
    return (path, some (← IO.FS.readFile path))
  catch _ =>
    return (path, none)

end ApiContract

/-- Runs the command. -/
def main (args : List String) : IO UInt32 := do
  let paths := if args.isEmpty then ["openapi.yaml"] else args.take 2
  let files ← paths.mapM ApiContract.readFile
  let result := ApiContract.Cli.run (fun path => (files.lookup path).join) args
  for line in result.log do
    IO.println line.text
  return if result.succeeds then 0 else 1
