import DeltaQuery.Aggregate.Resolve
import DeltaQuery.CommandLine
import DeltaQuery.Pipeline
import DeltaQuery.Plan.Compile
import DeltaQuery.Settings.Reading
import DeltaQuery.Sink.JsonArray

namespace DeltaQuery

def splitAtColon (text : List Char) : List Char × Option (List Char) :=
  match text.dropWhile (· != ':') with
  | [] => (text, none)
  | _ :: rest => (text.takeWhile (· != ':'), some rest)

def trimmedText (text : List Char) : String := String.ofList (Text.trimmed text)

-- A measure written as "kind:field" or "kind:field:label".
def Measure.parse (text : String) : Except Cause Measure := do
  let (kind, rest) := splitAtColon text.toList
  let aggregate ← Aggregate.resolve (String.ofList kind)
  match rest with
  | none => .error (.aggregateArgument text)
  | some rest =>
    let (field, label) := splitAtColon rest
    .ok { field := trimmedText field, aggregate, label := trimmedText (label.getD []) }

namespace CommandLine

structure Surroundings where
  environment : String → Option String
  files : String → Option (List UInt8)
  input : List UInt8

def variableStart : String := "PLAN_STREAM_"

def settingsVariable : String := variableStart ++ "CONFIG"

namespace Request

def fileSettings (surroundings : Surroundings) (path : String) : Except Failure Settings :=
  match surroundings.files path with
  | none => .error (Failure.of (.missingSettings path))
  | some bytes =>
    match String.fromUTF8? ⟨bytes.toArray⟩ with
    | none => .error (Failure.of (.undecodableSettings path))
    | some document => (Place.settingsFile path).around (failing (Settings.parse document))

def settings (request : Request) (surroundings : Surroundings) : Except Failure Settings := do
  let settings ← match request.settingsPath with
    | none => .ok {}
    | some path => fileSettings surroundings path
  failing (settings.override fun name => surroundings.environment (variableStart ++ name))

def sourceName : String := "input"

def plan (request : Request) : Except Failure Plan := do
  let measures ← failing (request.aggregates.mapM Measure.parse)
  let cardinality : Cardinality := if request.unbounded then .unbounded else .boundedDoesNotFit
  .ok (.groupBy (request.keys.map .variable) measures (.scan { name := sourceName, cardinality }))

def source (request : Request) (surroundings : Surroundings) : Source :=
  match request.inputPath with
  | none => .stream surroundings.input false
  | some path => .file path (surroundings.files path)

def operator (request : Request) (surroundings : Surroundings) : Except Failure Operator := do
  let settings ← request.settings surroundings
  let plan ← request.plan
  let sources := Catalog.register {} sourceName (request.source surroundings)
  let (op, _) ← plan.compile { settings, sources }
  .ok op

end Request

inductive Outcome
  | shown (text : String)
  | misused
  | finished (output : List UInt8)
  | failed (output : List UInt8) (failure : Failure)

def programName : String := "plan_stream_run"

def versionText : String := programName ++ " 0.1.0\n"

def usageText : String :=
  "Usage: " ++ programName ++ " [OPTIONS] --agg <KIND:FIELD[:ALIAS]>...\n\n" ++
  "  -c, --config <FILE>   settings file\n" ++
  "  -i, --input <FILE>    JSON lines to read, - for standard input\n" ++
  "      --unbounded       the input never ends\n" ++
  "  -k, --key <FIELD>     group by a field\n" ++
  "  -a, --agg <...>       aggregate a field\n"

def report (kind : FailureKind) (message : String) : String := s!"{programName}: {message} [{kind.name}]"

namespace Outcome

def code : Outcome → UInt8
  | .shown _ => 0
  | .misused => 2
  | .finished _ => 0
  | .failed .. => 1

def output : Outcome → List UInt8
  | .shown text => text.toUTF8.toList
  | .misused => []
  | .finished output => output
  | .failed output _ => output

end Outcome

def Request.run (request : Request) (surroundings : Surroundings) : Outcome :=
  match request.operator surroundings with
  | .error failure => .failed [] failure
  | .ok op =>
    let (result, array) := Pipeline.run JsonArray.sink op {}
    match result with
    | .ok _ => .finished array.writer.taken.toList
    | .error failure => .failed array.writer.taken.toList failure

def Command.run (surroundings : Surroundings) : Option Command → Outcome
  | none => .misused
  | some .version => .shown versionText
  | some .help => .shown usageText
  | some (.group request) => request.run surroundings

-- What has been written when a run fails stays written.
def run (arguments : List String) (surroundings : Surroundings) : Outcome :=
  Command.run surroundings (Command.read? (surroundings.environment settingsVariable) arguments)

end CommandLine

end DeltaQuery
