import DeltaQuery.Plan.Metadata
import DeltaQuery.Source

namespace DeltaQuery

def Expr.resolveEach (place : Nat → Place) (index : Nat) : List Expr → Except Failure (List Formula)
  | [] => .ok []
  | expr :: exprs =>
    match (place index).around expr.resolve with
    | .error failure => .error failure
    | .ok formula => (Expr.resolveEach place (index + 1) exprs).map (formula :: ·)

def EmitMode.checkBounded (mode : EmitMode) (cardinality : Cardinality) : Except Cause Unit :=
  if mode.requiresBoundedInput && !cardinality.isBounded then .error (.unboundedGroups mode cardinality)
  else .ok ()

namespace Plan

-- A node compiles after its sources and before its expressions are resolved. Only a grouping that emits at the end is
-- first asked whether its source ends at all. Opening a source changes the catalog, which goes through the whole
-- plan.
mutual

def materialize (settings : Settings) : Plan → Catalog → Except Failure (Operator × Catalog)
  | .scan s, catalog => do
    let (feed, catalog) ← catalog.start s.name
    .ok (.scan s.name feed, catalog)
  | .filter predicate source, catalog => do
    let (source, catalog) ← Place.planSource.around (materialize settings source catalog)
    let predicate ← Place.planPredicate.around predicate.resolve
    .ok (.filter predicate source, catalog)
  | .map columns source, catalog => do
    let (source, catalog) ← Place.planSource.around (materialize settings source catalog)
    let formulas ← Expr.resolveEach .planColumn 0 (columns.map (·.expr))
    let projection ← failing (Projection.make formulas (Column.names columns))
    .ok (.map projection source, catalog)
  | .unionAll sources, catalog => do
    let (children, catalog) ← materializeFrom settings 0 sources catalog
    .ok (.unionAll children 0, catalog)
  | .groupBy key measures source, catalog => do
    failing (settings.emitMode.checkBounded source.metadata.cardinality)
    let (source, catalog) ← Place.planSource.around (materialize settings source catalog)
    let formulas ← Expr.resolveEach .planKey 0 key
    let spec ← failing <| GroupSpec.make formulas (Expr.keyNames key) (measures.map (·.field))
      (measures.map (·.aggregate)) (measures.map (·.outputName)) settings.emitMode settings.extremumStrategy
    .ok (.groupBy { spec } source, catalog)

def materializeFrom (settings : Settings) (index : Nat) :
    List Plan → Catalog → Except Failure (List Operator × Catalog)
  | [], catalog => .ok ([], catalog)
  | plan :: plans, catalog => do
    let (child, catalog) ← (Place.unionSource index).around (materialize settings plan catalog)
    let (children, catalog) ← materializeFrom settings (index + 1) plans catalog
    .ok (child :: children, catalog)

end

def compile (environment : Environment) (plan : Plan) : Except Failure (Operator × Catalog) :=
  (Place.planNode plan.kind).around (plan.materialize environment.settings environment.sources)

end Plan

end DeltaQuery
