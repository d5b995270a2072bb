import DeltaQuery.Plan

namespace DeltaQuery

-- A handler sees only what has been rewritten, and what it returns is not looked at again. A kind without a handler
-- is left as it is.
structure Rewriter (m : Type → Type) where
  onScan : Option (Scan → m Plan) := none
  onFilter : Option (Expr → Plan → m Plan) := none
  onMap : Option (List Column → Plan → m Plan) := none
  onUnionAll : Option (List Plan → m Plan) := none
  onGroupBy : Option (List Expr → List Measure → Plan → m Plan) := none
  onExpr : Option (Expr → m Expr) := none

variable {m : Type → Type} [Monad m]

namespace Rewriter

def expr (rewriter : Rewriter m) (expr : Expr) : m Expr :=
  match rewriter.onExpr with
  | some handler => handler expr
  | none => pure expr

def scan (rewriter : Rewriter m) (scan : Scan) : m Plan :=
  match rewriter.onScan with
  | some handler => handler scan
  | none => pure (.scan scan)

def filter (rewriter : Rewriter m) (predicate : Expr) (source : Plan) : m Plan :=
  match rewriter.onFilter with
  | some handler => handler predicate source
  | none => pure (.filter predicate source)

def map (rewriter : Rewriter m) (columns : List Column) (source : Plan) : m Plan :=
  match rewriter.onMap with
  | some handler => handler columns source
  | none => pure (.map columns source)

def unionAll (rewriter : Rewriter m) (sources : List Plan) : m Plan :=
  match rewriter.onUnionAll with
  | some handler => handler sources
  | none => pure (.unionAll sources)

def groupBy (rewriter : Rewriter m) (key : List Expr) (measures : List Measure) (source : Plan) : m Plan :=
  match rewriter.onGroupBy with
  | some handler => handler key measures source
  | none => pure (.groupBy key measures source)

end Rewriter

mutual

def Expr.rewrite (rewriter : Rewriter m) : Expr → m Expr
  | .variable name => rewriter.expr (.variable name)
  | .constant value => rewriter.expr (.constant value)
  | .call name arguments => do
    let arguments ← Expr.rewriteAll rewriter arguments
    rewriter.expr (.call name arguments)
  | .connect connective operands => do
    let operands ← Expr.rewriteAll rewriter operands
    rewriter.expr (.connect connective operands)

def Expr.rewriteAll (rewriter : Rewriter m) : List Expr → m (List Expr)
  | [] => pure []
  | expr :: exprs => do
    let expr ← Expr.rewrite rewriter expr
    let exprs ← Expr.rewriteAll rewriter exprs
    pure (expr :: exprs)

end

def Column.rewriteAll (rewriter : Rewriter m) : List Column → m (List Column)
  | [] => pure []
  | column :: columns => do
    let expr ← column.expr.rewrite rewriter
    let columns ← Column.rewriteAll rewriter columns
    pure ({ column with expr } :: columns)

mutual

def Plan.rewrite (rewriter : Rewriter m) : Plan → m Plan
  | .scan s => rewriter.scan s
  | .filter predicate source => do
    let predicate ← predicate.rewrite rewriter
    let source ← Plan.rewrite rewriter source
    rewriter.filter predicate source
  | .map columns source => do
    let columns ← Column.rewriteAll rewriter columns
    let source ← Plan.rewrite rewriter source
    rewriter.map columns source
  | .unionAll sources => do
    let sources ← Plan.rewriteAll rewriter sources
    rewriter.unionAll sources
  | .groupBy key measures source => do
    let key ← Expr.rewriteAll rewriter key
    let source ← Plan.rewrite rewriter source
    rewriter.groupBy key measures source

def Plan.rewriteAll (rewriter : Rewriter m) : List Plan → m (List Plan)
  | [] => pure []
  | plan :: plans => do
    let plan ← Plan.rewrite rewriter plan
    let plans ← Plan.rewriteAll rewriter plans
    pure (plan :: plans)

end

end DeltaQuery
