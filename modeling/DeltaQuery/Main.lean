import DeltaQuery.CommandLine.Run

namespace DeltaQuery.CommandLine

def Request.paths (request : Request) : List String :=
  request.settingsPath.toList ++ request.inputPath.toList

def readFiles (paths : List String) : IO (List (String × List UInt8)) :=
  paths.filterMapM fun (path : String) => do
    match ← (IO.FS.readBinFile path).toBaseIO with
    | .ok bytes => return some (path, bytes.toList)
    | .error _ => return none

def readVariables (names : List String) : IO (List (String × String)) :=
  names.filterMapM fun name => do return (← IO.getEnv name).map fun value => (name, value)

def readInput (request : Request) : IO (List UInt8) := do
  if request.inputPath.isNone then return (← (← IO.getStdin).readBinToEnd).toList else return []

def perform (arguments : List String) : IO Outcome := do
  let names := settingsVariable :: Settings.overrideNames.map fun name => variableStart ++ name
  let variablesSet ← readVariables names
  let request := match Command.read? (variablesSet.lookup settingsVariable) arguments with
    | some (.group request) => some request
    | _ => none
  let files ← readFiles ((request.map Request.paths).getD [])
  let input ← match request with
    | some request => readInput request
    | none => pure []
  return run arguments
    { environment := fun name => variablesSet.lookup name, files := fun path => files.lookup path, input }

end DeltaQuery.CommandLine

open DeltaQuery.CommandLine in
def main (arguments : List String) : IO UInt32 := do
  let outcome ← perform arguments
  (← IO.getStdout).write ⟨outcome.output.toArray⟩
  match outcome with
  | .failed _ failure => IO.eprintln (report failure.kind failure.message)
  | .misused => IO.eprint usageText
  | _ => pure ()
  return outcome.code.toUInt32
