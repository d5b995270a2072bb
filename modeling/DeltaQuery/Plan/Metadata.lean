import DeltaQuery.Plan

namespace DeltaQuery

structure Metadata where
  cardinality : Cardinality
  leadingKey : String
deriving DecidableEq

def Column.nameOf (columns : List Column) (field : String) : String :=
  if field.isEmpty then ""
  else
    let kept := (columns.zip (Column.names columns)).find? fun (column, _) => column.expr = .variable field
    (kept.map (·.2)).getD ""

namespace Plan

-- A filter keeps the size class and the leading key. A projection keeps the key under the name of the first column
-- that is the key unchanged. A union mixes its inputs, and a grouping has one row for each key, which is taken to
-- fit.
mutual

def metadata : Plan → Metadata
  | .scan s => ⟨s.cardinality, s.leadingKey⟩
  | .filter _ source => metadata source
  | .map columns source =>
    let below := metadata source
    ⟨below.cardinality, Column.nameOf columns below.leadingKey⟩
  | .unionAll sources => ⟨cardinalityOfAll .boundedFits sources, ""⟩
  | .groupBy .. => ⟨.boundedFits, ""⟩

def cardinalityOfAll (seen : Cardinality) : List Plan → Cardinality
  | [] => seen
  | plan :: plans => cardinalityOfAll (seen.combine (metadata plan).cardinality) plans

end

end Plan

end DeltaQuery
