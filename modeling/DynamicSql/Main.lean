import DynamicSql.CommandLine.Run

/-!
# The program

Reads the files that the command line names, runs the command, prints what it
yields and exits with its code.
-/

namespace DynamicSql.CommandLine

/-- Read a file; a failure is told in words. -/
def readFile (path : String) : IO (Except String String) := do
  try
    return .ok (← IO.FS.readFile path)
  catch error =>
    match error with
    | .noFileOrDirectory .. => return .error "No such file or directory (os error 2)"
    | error => return .error error.toString

end DynamicSql.CommandLine

open DynamicSql.CommandLine in
/-- Run the command line. -/
def main (args : List String) : IO UInt32 := do
  let paths := match readArguments args with
    | .ok invocation => invocation.files
    | .error _ => []
  let contents ← paths.mapM fun path => return (path, ← readFile path)
  let files : Files := fun path =>
    (contents.lookup path).getD (.error "No such file or directory (os error 2)")
  let outcome := run files args
  IO.print outcome.stdout
  if outcome.stderr ≠ "" then
    IO.eprintln outcome.stderr
  return outcome.code.toUInt32
