import DeltaQuery.Plan.Rewrite

namespace DeltaQuery

inductive ScanRule
  | trace
  | rename (old new : String)
  | setCardinality (cardinality : Cardinality)
  | filterAbove (predicate : Expr)

inductive FilterRule
  | trace
  | drop
  | strengthen (predicate : Expr)
  | filterAbove (predicate : Expr)

inductive MapRule
  | trace
  | drop
  | filterAbove (predicate : Expr)

inductive UnionRule
  | trace
  | flatten
  | unwrapSingle
  | filterAbove (predicate : Expr)

inductive GroupRule
  | trace
  | drop
  | filterAbove (predicate : Expr)

inductive ExprRule
  | trace
  | renameVariable (old new : String)
  | renameCall (old new : String)
  | replaceConstant (old new : Value)
  | unwrapSingle

inductive Rule
  | scan (rule : ScanRule)
  | filter (rule : FilterRule)
  | map (rule : MapRule)
  | unionAll (rule : UnionRule)
  | groupBy (rule : GroupRule)
  | expr (rule : ExprRule)

def ScanRule.apply (rule : ScanRule) (scan : Scan) : Plan :=
  match rule with
  | .trace => .scan scan
  | .rename old new => .scan (if scan.name = old then { scan with name := new } else scan)
  | .setCardinality cardinality => .scan { scan with cardinality }
  | .filterAbove predicate => .filter predicate (.scan scan)

def FilterRule.apply (rule : FilterRule) (predicate : Expr) (source : Plan) : Plan :=
  match rule with
  | .trace => .filter predicate source
  | .drop => source
  | .strengthen more => .filter (.connect .and [predicate, more]) source
  | .filterAbove above => .filter above (.filter predicate source)

def MapRule.apply (rule : MapRule) (columns : List Column) (source : Plan) : Plan :=
  match rule with
  | .trace => .map columns source
  | .drop => source
  | .filterAbove predicate => .filter predicate (.map columns source)

def Plan.parts : Plan → List Plan
  | .unionAll sources => sources
  | plan => [plan]

def UnionRule.apply (rule : UnionRule) (sources : List Plan) : Plan :=
  match rule with
  | .trace => .unionAll sources
  | .flatten => .unionAll (sources.flatMap Plan.parts)
  | .unwrapSingle =>
    match sources with
    | [source] => source
    | sources => .unionAll sources
  | .filterAbove predicate => .filter predicate (.unionAll sources)

def GroupRule.apply (rule : GroupRule) (key : List Expr) (measures : List Measure) (source : Plan) : Plan :=
  match rule with
  | .trace => .groupBy key measures source
  | .drop => source
  | .filterAbove predicate => .filter predicate (.groupBy key measures source)

def ExprRule.apply (rule : ExprRule) (expr : Expr) : Expr :=
  match rule, expr with
  | .renameVariable old new, .variable name => .variable (if name = old then new else name)
  | .renameCall old new, .call name arguments => .call (if name = old then new else name) arguments
  | .replaceConstant old new, .constant value => .constant (if value = old then new else value)
  | .unwrapSingle, .connect _ [operand] => operand
  | _, expr => expr

inductive Visit
  | scan (name : String)
  | filter
  | map (columns : Nat)
  | unionAll (sources : Nat)
  | groupBy (measures : Nat)
  | expr (expr : Expr)

def Visit.text : Visit → String
  | .scan name => "scan " ++ name
  | .filter => "filter"
  | .map columns => "map " ++ toString columns
  | .unionAll sources => "union_all " ++ toString sources
  | .groupBy measures => "group_by " ++ toString measures
  | .expr e => "expr " ++ e.render

abbrev Logged := StateM (List Visit)

def logged {α : Type} (visit : Visit) (result : α) : Logged α := do
  modify (visit :: ·)
  pure result

def Rule.register (rewriter : Rewriter Logged) (rule : Rule) : Rewriter Logged :=
  match rule with
  | .scan rule =>
    { rewriter with onScan := some fun scan => logged (.scan scan.name) (rule.apply scan) }
  | .filter rule =>
    { rewriter with onFilter := some fun predicate source => logged .filter (rule.apply predicate source) }
  | .map rule =>
    { rewriter with
      onMap := some fun columns source => logged (.map columns.length) (rule.apply columns source) }
  | .unionAll rule =>
    { rewriter with onUnionAll := some fun sources => logged (.unionAll sources.length) (rule.apply sources) }
  | .groupBy rule =>
    { rewriter with
      onGroupBy := some fun key measures source =>
        logged (.groupBy measures.length) (rule.apply key measures source) }
  | .expr rule => { rewriter with onExpr := some fun expr => logged (.expr expr) (rule.apply expr) }

-- Of several rules for one kind of node the last one counts. One that does not match leaves the node as it is, but
-- its visit is logged all the same.
def Plan.applyRules (rules : List Rule) (plan : Plan) : Plan × List Visit :=
  let (plan, visits) := (plan.rewrite (rules.foldl Rule.register {})).run []
  (plan, visits.reverse)

end DeltaQuery
