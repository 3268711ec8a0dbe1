import SignalScript.Cli.Outcome

/-!
# The program

Reads the variables and the files that a command line needs, prints what the command prints and
ends as it ends.
-/

namespace SignalScript.Program

/-- the content of a file, if it can be read -/
def content? (name : String) : IO (Option ByteArray) := do
  try
    return some (← IO.FS.readBinFile name)
  catch _ =>
    return none

/-- the nearest file of a name, in this directory or in one of those around it -/
def nearest? (name : String) : Nat → String → IO (Option ByteArray)
  | 0, _ => return none
  | levels + 1, directory => do
    match ← content? (directory ++ name) with
    | some bytes => return some bytes
    | none => nearest? name levels (directory ++ "../")

/-- those of the variables that are set -/
def valuesOf (names : List String) : IO Environment :=
  names.filterMapM fun name => do
    return (← IO.getEnv name).map fun value => (name, value)

/-- the files that a command line needs -/
def files (settings : Option ByteArray) (request : Except UsageError Request) :
    IO (List (String × ByteArray)) := do
  let scenario := match request with
    | .ok request => request.file?
    | .error _ => none
  let table := (settings.map fun bytes => (".env", bytes)).toList
  match scenario with
  | none => return table
  | some file =>
    return ((← content? file).map fun bytes => (file, bytes)).toList ++ table

end SignalScript.Program

open SignalScript in
def main (arguments : List String) : IO UInt32 := do
  let settings ← Program.nearest? ".env" 64 ""
  let text := (settings.bind String.fromUTF8?).getD ""
  let env ← Program.valuesOf
    (Verb.run.settings.filterMap Setting.variableName? ++ Environment.mentioned text)
  let table ← Program.files settings (Request.ofArguments? env arguments)
  let outcome := Outcome.ofArguments (fun name => table.lookup name) env arguments
  IO.print outcome.output
  IO.eprint outcome.ending.complaint
  return outcome.ending.code.toUInt32
