import WidgetMarkup.CommandLine

/-!
# The program

Reads the files that the arguments name, runs the command on them, and
prints what it reports. It makes no connections.
-/

namespace WidgetMarkup

/-- Reads a file of the system. -/
def readFile (name : String) : IO (Except FileFault ByteArray) := do
  try
    return .ok (← IO.FS.readBinFile name)
  catch
    | .noFileOrDirectory .. => return .error .missing
    | error => return .error (.refused (toString error))

/-- The names of the files that a request may need. -/
def neededFiles (r : Request) : List String :=
  r.config.toList ++ [(afterScheme? "file://" r.source).getD r.source]

end WidgetMarkup

open WidgetMarkup in
/-- Runs the command with the given arguments. -/
def main (arguments : List String) : IO UInt32 := do
  match Request.ofArguments? none none false arguments with
  | none =>
    IO.eprintln "Usage: mini-markup [OPTIONS] <SOURCE>"
    return 2
  | some request =>
    let mut found : List (String × Except FileFault ByteArray) := []
    for name in neededFiles request do
      found := (name, ← readFile name) :: found
    let files := found
    let report := request.run (fun name => (files.lookup name).getD (.error .missing)) .unreachable
    IO.print report.output
    IO.eprint report.errors
    return report.code.toUInt32
