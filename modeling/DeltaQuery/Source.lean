import DeltaQuery.ByName
import DeltaQuery.Operator

namespace DeltaQuery

inductive Source
  | memory (records : List Record)
  | stream (bytes : List UInt8) (opened : Bool)
  | file (path : String) (bytes : Option (List UInt8))
  | script (script : Script)
  | refusing (reason : String)

-- Records in memory and files start afresh every time; a stream of bytes can be read once.
def Source.start : Source → Except Cause Feed × Source
  | .memory records => (.ok (.replay records), .memory records)
  | .stream bytes true => (.error .alreadyOpened, .stream bytes true)
  | .stream bytes false => (.ok (.lines (JsonLines.ofBytes bytes)), .stream bytes true)
  | .file path none => (.error (.missingInput path), .file path none)
  | .file path (some bytes) => (.ok (.lines (JsonLines.ofBytes bytes)), .file path (some bytes))
  | .script s => (.ok (.script s), .script s)
  | .refusing reason => (.error (.stated .compilation reason), .refusing reason)

structure Catalog where
  entries : List (String × Source) := []

namespace Catalog

def register (catalog : Catalog) (name : String) (source : Source) : Catalog :=
  ⟨ByName.put name source catalog.entries⟩

def names (catalog : Catalog) : List String := catalog.entries.map (·.1)

def find (catalog : Catalog) (name : String) : Except Cause Source :=
  match catalog.entries.lookup name with
  | some source => .ok source
  | none => .error (.unknownSource name)

def start (catalog : Catalog) (name : String) : Except Failure (Feed × Catalog) := do
  let source ← failing (catalog.find name)
  let (feed, source) := source.start
  let feed ← (Place.opening name).around (failing feed)
  .ok (feed, catalog.register name source)

end Catalog

structure Environment where
  settings : Settings := {}
  sources : Catalog := {}

def Environment.inspect (environment : Environment) : String :=
  "MaterializationContext \x7b config: " ++ environment.settings.inspect ++
    ", sources: [" ++ ", ".intercalate (environment.sources.names.map Text.quoted) ++ "] \x7d"

end DeltaQuery
