import DeltaQuery.ByName
import DeltaQuery.Json.Parser
import DeltaQuery.Record

namespace DeltaQuery

namespace Value

mutual

-- Times become texts, tuples arrays, and floats that are not finite null.
def toJson : Value → Json
  | .null => .null
  | .bool b => .bool b
  | .int i => .integer i
  | .float x => if x.isFinite then .float x else .null
  | .text s => .text s
  | .time t => .text (t.toRfc3339 .letter)
  | .tuple items => .array (toJsons items)

def toJsons : List Value → List Json
  | [] => []
  | item :: items => toJson item :: toJsons items

end

mutual

def ofJson? : Json → Option Value
  | .null => some .null
  | .bool b => some (.bool b)
  | .integer i => some (.int i)
  | .float x => some (.float x)
  | .text s => some (.text s)
  | .array items => (ofJsons? items).map .tuple
  | .object _ => none

def ofJsons? : List Json → Option (List Value)
  | [] => some []
  | item :: items => do
    let value ← ofJson? item
    let values ← ofJsons? items
    some (value :: values)

end

end Value

def Record.toJson (record : Record) : Json :=
  .object (ByName.sorted (record.columns.map fun (name, value) => (name, value.toJson)))

end DeltaQuery
