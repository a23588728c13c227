import BoundSql.CommandLine

/-!
The program. It reads the files that the arguments name and leaves the rest to
`CommandLine.run`.
-/

namespace BoundSql.CommandLine

def reasonOf : IO.Error → String
  | .noFileOrDirectory _ code _ => "No such file or directory (os error " ++ toString code ++ ")"
  | reason => toString reason

def attempt (action : IO String) : IO (Except String String) := do
  try
    return .ok (← action)
  catch reason =>
    return .error (reasonOf reason)

def environment : IO Variables := do
  let names := [Settings.sigilVariable, Settings.identityQueryVariable,
    Settings.logStatementsVariable]
  let found ← names.mapM fun name => do
    return (← IO.getEnv name).toList.map fun value => (name, value)
  match ← attempt (IO.FS.readFile ".env") with
  | .ok text => return addFile found.flatten text
  | .error _ => return found.flatten

def readRequest (file : String) : IO String := do
  if file = "-" then (← IO.getStdin).readToEnd else IO.FS.readFile file

def sourcesOf (arguments : Arguments) : IO Sources := do
  let settings ← arguments.settings.mapM fun file => attempt (IO.FS.readFile file)
  return {
    environment := ← environment
    settings
    catalog := ← attempt (IO.FS.readFile arguments.catalog)
    request := ← attempt (readRequest arguments.request) }

end BoundSql.CommandLine

open BoundSql.CommandLine in
def main (words : List String) : IO UInt32 := do
  let answer ← answer words sourcesOf
  IO.print answer.output
  unless answer.complaint.isEmpty do IO.eprintln answer.complaint
  return answer.exit
