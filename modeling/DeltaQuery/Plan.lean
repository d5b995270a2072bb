import DeltaQuery.Expr

namespace DeltaQuery

structure Scan where
  name : String
  cardinality : Cardinality := .boundedFits
  -- The field the source is ordered by, empty if there is none.
  leadingKey : String := ""
deriving DecidableEq

structure Column where
  expr : Expr
  label : String
deriving DecidableEq

-- An empty field aggregates whole records.
structure Measure where
  field : String
  aggregate : Aggregate
  label : String
deriving DecidableEq

-- No plan has lists that do not match: every column of a projection has its expression and its label, every measure
-- of a grouping its field, its aggregate and its label.
inductive Plan
  | scan (scan : Scan)
  | filter (predicate : Expr) (source : Plan)
  | map (columns : List Column) (source : Plan)
  | unionAll (sources : List Plan)
  | groupBy (key : List Expr) (measures : List Measure) (source : Plan)

def firstNonempty (first second third : String) : String :=
  if first.isEmpty then (if second.isEmpty then third else second) else first

-- The label, or the name of a variable, or a numbered name.
def Column.names (columns : List Column) : List String :=
  columns.mapIdx fun i column => firstNonempty column.label column.expr.outputName ("col_" ++ toString i)

def Expr.keyNames (key : List Expr) : List String :=
  key.mapIdx fun i expr => firstNonempty expr.outputName ("key_" ++ toString i) ""

namespace Measure

def description (measure : Measure) : String :=
  measure.aggregate.name ++ "(" ++ (if measure.field.isEmpty then "*" else measure.field) ++ ")"

def outputName (measure : Measure) : String :=
  if measure.label.isEmpty then measure.description else measure.label

end Measure

namespace Plan

instance : Inhabited Plan := ⟨.unionAll []⟩

def kind : Plan → String
  | .scan _ => "Scan"
  | .filter .. => "Filter"
  | .map .. => "Map"
  | .unionAll _ => "UnionAll"
  | .groupBy .. => "GroupBy"

def project (source : Plan) (exprs : List Expr) (labels : List String) : Except Cause Plan :=
  if exprs.length = labels.length then .ok (.map (exprs.zipWith Column.mk labels) source)
  else .error (.mapAliases exprs.length labels.length)

def group (source : Plan) (key : List Expr) (fields : List String) (aggregates : List Aggregate)
    (labels : List String) : Except Cause Plan :=
  if fields.length = aggregates.length ∧ fields.length = labels.length then
    let measures := (fields.zip (aggregates.zip labels)).map fun (field, aggregate, label) =>
      { field, aggregate, label }
    .ok (.groupBy key measures source)
  else .error (.groupAliases fields.length aggregates.length labels.length)

mutual

private def decideEq : (a b : Plan) → Decidable (a = b)
  | .scan s, b =>
    match b with
    | .scan t => decidable_of_iff (s = t) (by simp)
    | .filter .. | .map .. | .unionAll _ | .groupBy .. => .isFalse (by simp)
  | .filter p s, b =>
    match b with
    | .filter q t =>
      have := decideEq s t
      decidable_of_iff (p = q ∧ s = t) (by simp)
    | .scan _ | .map .. | .unionAll _ | .groupBy .. => .isFalse (by simp)
  | .map cs s, b =>
    match b with
    | .map ds t =>
      have := decideEq s t
      decidable_of_iff (cs = ds ∧ s = t) (by simp)
    | .scan _ | .filter .. | .unionAll _ | .groupBy .. => .isFalse (by simp)
  | .unionAll ss, b =>
    match b with
    | .unionAll ts =>
      have := decideAllEq ss ts
      decidable_of_iff (ss = ts) (by simp)
    | .scan _ | .filter .. | .map .. | .groupBy .. => .isFalse (by simp)
  | .groupBy k ms s, b =>
    match b with
    | .groupBy l ns t =>
      have := decideEq s t
      decidable_of_iff (k = l ∧ ms = ns ∧ s = t) (by simp)
    | .scan _ | .filter .. | .map .. | .unionAll _ => .isFalse (by simp)

private def decideAllEq : (as bs : List Plan) → Decidable (as = bs)
  | [], [] => .isTrue rfl
  | [], _ :: _ => .isFalse (by simp)
  | _ :: _, [] => .isFalse (by simp)
  | a :: as, b :: bs =>
    have := decideEq a b
    have := decideAllEq as bs
    decidable_of_iff (a = b ∧ as = bs) (by simp)

end

instance : DecidableEq Plan := decideEq

def scanFields (scan : Scan) : List (String × String) :=
  [("name", scan.name), ("cardinality", scan.cardinality.name)] ++
    if scan.leadingKey.isEmpty then [] else [("leading_key", scan.leadingKey)]

def measureText (measure : Measure) : String :=
  if measure.label.isEmpty then measure.description else measure.description ++ " as " ++ measure.label

mutual

def outline : Plan → Outline
  | .scan s => .node "scan" (scanFields s) []
  | .filter predicate source =>
    .node "filter" [] [("predicate", predicate.outline), ("source", outline source)]
  | .map columns source =>
    .node "map" (Outline.numbered "name" (Column.names columns))
      (Outline.numbered "expr" (columns.map (·.expr.outline)) ++ [("source", outline source)])
  | .unionAll sources => .node "union_all" [] (Outline.numbered "source" (outlines sources))
  | .groupBy key measures source =>
    .node "group_by" (Outline.numbered "field" (measures.map measureText))
      (("source", outline source) :: Outline.numbered "key" (key.map Expr.outline))

def outlines : List Plan → List Outline
  | [] => []
  | plan :: plans => outline plan :: outlines plans

end

def render (plan : Plan) : String := plan.outline.render

end Plan

end DeltaQuery
