import DeltaQuery.Plan.Rewrite
import DeltaQuery.Proofs.WellFormed

namespace DeltaQuery

inductive Node
  | expr (expr : Expr)
  | plan (plan : Plan)
deriving DecidableEq

namespace Node

def expr? : Node → Option Expr
  | .expr e => some e
  | .plan _ => none

def plan? : Node → Option Plan
  | .plan p => some p
  | .expr _ => none

def kind : Node → String
  | .expr _ => "Expression"
  | .plan p => p.kind

def parts : Node → List Node
  | .expr (.variable _) => []
  | .expr (.constant _) => []
  | .expr (.call _ arguments) => arguments.map expr
  | .expr (.connect _ operands) => operands.map expr
  | .plan (.scan _) => []
  | .plan (.filter predicate source) => [.expr predicate, .plan source]
  | .plan (.map columns source) => columns.map (fun column => .expr column.expr) ++ [.plan source]
  | .plan (.unionAll sources) => sources.map plan
  | .plan (.groupBy key _ source) => key.map expr ++ [.plan source]

def exprsOf (parts : List Node) : List Expr := parts.filterMap expr?

def plansOf (parts : List Node) : List Plan := parts.filterMap plan?

def withParts (node : Node) (parts : List Node) : Node :=
  match node with
  | .expr (.call name _) => .expr (.call name (exprsOf parts))
  | .expr (.connect connective _) => .expr (.connect connective (exprsOf parts))
  | .plan (.filter _ _) => .plan (.filter ((exprsOf parts).headD default) ((plansOf parts).headD default))
  | .plan (.map columns _) =>
    .plan (.map (columns.zipWith (fun column expr => { column with expr }) (exprsOf parts)) ((plansOf parts).headD default))
  | .plan (.unionAll _) => .plan (.unionAll (plansOf parts))
  | .plan (.groupBy _ measures _) => .plan (.groupBy (exprsOf parts) measures ((plansOf parts).headD default))
  | node => node

@[simp]
theorem exprsOf_append (parts more : List Node) : exprsOf (parts ++ more) = exprsOf parts ++ exprsOf more :=
  List.filterMap_append

@[simp]
theorem plansOf_append (parts more : List Node) : plansOf (parts ++ more) = plansOf parts ++ plansOf more :=
  List.filterMap_append

@[simp]
theorem exprsOf_exprs (exprs : List Expr) : exprsOf (exprs.map expr) = exprs := by
  simp [exprsOf, List.filterMap_map, Function.comp_def, expr?]

@[simp]
theorem plansOf_exprs (exprs : List Expr) : plansOf (exprs.map expr) = [] := by
  simp [plansOf, List.filterMap_map, Function.comp_def, plan?]

@[simp]
theorem plansOf_plans (plans : List Plan) : plansOf (plans.map plan) = plans := by
  simp [plansOf, List.filterMap_map, Function.comp_def, plan?]

@[simp]
theorem exprsOf_plan (p : Plan) : exprsOf [.plan p] = [] := rfl

@[simp]
theorem plansOf_plan (p : Plan) : plansOf [.plan p] = [p] := rfl

@[simp]
theorem kind_withParts (node : Node) (parts : List Node) : (node.withParts parts).kind = node.kind := by
  rcases node with (_ | _ | _ | _) | (_ | _ | _ | _ | _) <;> rfl

end Node

mutual

def Expr.visits : Expr → List Node
  | .variable name => [.expr (.variable name)]
  | .constant value => [.expr (.constant value)]
  | .call name arguments => Expr.visitsOfAll arguments ++ [.expr (.call name arguments)]
  | .connect connective operands => Expr.visitsOfAll operands ++ [.expr (.connect connective operands)]

def Expr.visitsOfAll : List Expr → List Node
  | [] => []
  | expr :: exprs => Expr.visits expr ++ Expr.visitsOfAll exprs

end

mutual

def Plan.visits : Plan → List Node
  | .scan s => [.plan (.scan s)]
  | .filter predicate source => predicate.visits ++ Plan.visits source ++ [.plan (.filter predicate source)]
  | .map columns source =>
    Expr.visitsOfAll (columns.map (·.expr)) ++ Plan.visits source ++ [.plan (.map columns source)]
  | .unionAll sources => Plan.visitsOfAll sources ++ [.plan (.unionAll sources)]
  | .groupBy key measures source =>
    Expr.visitsOfAll key ++ Plan.visits source ++ [.plan (.groupBy key measures source)]

def Plan.visitsOfAll : List Plan → List Node
  | [] => []
  | plan :: plans => Plan.visits plan ++ Plan.visitsOfAll plans

end

def Node.visits : Node → List Node
  | .expr e => e.visits
  | .plan p => p.visits

theorem Expr.visitsOfAll_eq (exprs : List Expr) : visitsOfAll exprs = exprs.flatMap visits := by
  induction exprs with
  | nil => rfl
  | cons expr exprs ih => rw [visitsOfAll, ih, List.flatMap_cons]

theorem Plan.visitsOfAll_eq (plans : List Plan) : visitsOfAll plans = plans.flatMap visits := by
  induction plans with
  | nil => rfl
  | cons plan plans ih => rw [visitsOfAll, ih, List.flatMap_cons]

-- For every kind of node alike: first the visits of its parts, one part after the other, then the node.
theorem Node.visits_eq (node : Node) : node.visits = node.parts.flatMap visits ++ [node] := by
  rcases node with (_ | _ | ⟨name, arguments⟩ | ⟨connective, operands⟩) | (_ | _ | ⟨columns, source⟩ | sources | ⟨key, measures, source⟩)
  all_goals simp [visits, parts, Expr.visits, Plan.visits, Expr.visitsOfAll_eq, Plan.visitsOfAll_eq, List.flatMap_map,
    List.flatMap_append]

variable {m : Type → Type} [Monad m]

namespace Rewriter

-- The handler's answer about a node, or the node itself if its kind has no handler.
def ask (rewriter : Rewriter m) : Node → m Node
  | .expr expr => .expr <$> rewriter.expr expr
  | .plan (.scan s) => .plan <$> rewriter.scan s
  | .plan (.filter predicate source) => .plan <$> rewriter.filter predicate source
  | .plan (.map columns source) => .plan <$> rewriter.map columns source
  | .plan (.unionAll sources) => .plan <$> rewriter.unionAll sources
  | .plan (.groupBy key measures source) => .plan <$> rewriter.groupBy key measures source

-- One visit. The latest answers are on top of the stack, and those about the node's parts are the topmost.
def visit (rewriter : Rewriter m) (stack : List Node) (node : Node) : m (List Node) := do
  let image ← rewriter.ask (node.withParts (stack.take node.parts.length).reverse)
  pure (image :: stack.drop node.parts.length)

end Rewriter

def noting {α : Type} (node : Node) (answer : m α) : StateT (List Node) m α := do
  modify (· ++ [node])
  answer

def Rewriter.noted (rewriter : Rewriter m) : Rewriter (StateT (List Node) m) where
  onScan := rewriter.onScan.map fun handler s => noting (.plan (.scan s)) (handler s)
  onFilter := rewriter.onFilter.map fun handler predicate source =>
    noting (.plan (.filter predicate source)) (handler predicate source)
  onMap := rewriter.onMap.map fun handler columns source => noting (.plan (.map columns source)) (handler columns source)
  onUnionAll := rewriter.onUnionAll.map fun handler sources => noting (.plan (.unionAll sources)) (handler sources)
  onGroupBy := rewriter.onGroupBy.map fun handler key measures source =>
    noting (.plan (.groupBy key measures source)) (handler key measures source)
  onExpr := rewriter.onExpr.map fun handler expr => noting (.expr expr) (handler expr)

theorem Expr.rewriteAll_eq (rewriter : Rewriter m) (exprs : List Expr) :
    Expr.rewriteAll rewriter exprs = exprs.mapM' (Expr.rewrite rewriter) := by
  induction exprs with
  | nil => rfl
  | cons expr exprs ih =>
    rw [rewriteAll, ih]
    rfl

theorem Plan.rewriteAll_eq (rewriter : Rewriter m) (plans : List Plan) :
    Plan.rewriteAll rewriter plans = plans.mapM' (Plan.rewrite rewriter) := by
  induction plans with
  | nil => rfl
  | cons plan plans ih =>
    rw [rewriteAll, ih]
    rfl

variable [LawfulMonad m] (rewriter : Rewriter m)

theorem Column.rewriteAll_eq (columns : List Column) :
    Column.rewriteAll rewriter columns =
      (columns.zipWith (fun column expr => { column with expr }) ·) <$>
        (columns.map (·.expr)).mapM' (Expr.rewrite rewriter) := by
  induction columns with
  | nil => simp [rewriteAll]
  | cons column columns ih => simp [rewriteAll, ih]

section

variable {α β γ : Type} {items : List α} {f : α → m β}

-- There are as many results as items, so what follows may count on it.
theorem bind_mapM'_congr {g h : List β → m γ} (same : ∀ images, images.length = items.length → g images = h images) :
    items.mapM' f >>= g = items.mapM' f >>= h := by
  induction items generalizing g h with
  | nil => simpa using same [] rfl
  | cons item items ih =>
    simp only [List.mapM'_cons, bind_assoc, pure_bind]
    refine bind_congr fun image => ih fun images length => ?_
    exact same (image :: images) (congrArg (· + 1) length)

-- If visiting each item puts its result on the stack, visiting all of them puts all results there.
theorem foldlM_visitsEach {visitsOf : α → List Node} {wrap : β → Node}
    (each : ∀ item ∈ items, ∀ stack,
      (visitsOf item).foldlM rewriter.visit stack = (fun image => wrap image :: stack) <$> f item) (stack : List Node) :
    (items.flatMap visitsOf).foldlM rewriter.visit stack =
      (fun images => (images.map wrap).reverse ++ stack) <$> items.mapM' f := by
  induction items generalizing stack with
  | nil => simp
  | cons item items ih =>
    obtain ⟨first, rest⟩ := List.forall_mem_cons.mp each
    simp only [List.flatMap_cons, List.foldlM_append, first, List.mapM'_cons, bind_map_left, map_bind, map_pure, ih rest]
    refine bind_congr fun image => ?_
    simp

end

theorem Rewriter.visit_of_parts (node : Node) (images stack : List Node) (length : images.length = node.parts.length) :
    rewriter.visit (images.reverse ++ stack) node = (· :: stack) <$> rewriter.ask (node.withParts images) := by
  have count : images.reverse.length = node.parts.length := List.length_reverse.trans length
  rw [visit, List.take_left' count, List.drop_left' count, List.reverse_reverse, map_eq_pure_bind]

theorem Expr.foldlM_visits (expr : Expr) (stack : List Node) :
    expr.visits.foldlM rewriter.visit stack = (fun image => .expr image :: stack) <$> expr.rewrite rewriter := by
  induction expr using inductionOn generalizing stack with
  | named name =>
    have visited := rewriter.visit_of_parts (.expr (.variable name)) [] stack rfl
    simpa [visits, rewrite, Rewriter.ask, Node.withParts] using visited
  | constant value =>
    have visited := rewriter.visit_of_parts (.expr (.constant value)) [] stack rfl
    simpa [visits, rewrite, Rewriter.ask, Node.withParts] using visited
  | call name arguments ih =>
    rw [visits, visitsOfAll_eq, List.foldlM_append, foldlM_visitsEach rewriter ih, rewrite, rewriteAll_eq,
      bind_map_left, map_bind]
    refine bind_mapM'_congr fun images length => ?_
    have visited := rewriter.visit_of_parts (.expr (.call name arguments)) (images.map .expr) stack
      (by simpa [Node.parts] using length)
    simpa [Rewriter.ask, Node.withParts] using visited
  | connect connective operands ih =>
    rw [visits, visitsOfAll_eq, List.foldlM_append, foldlM_visitsEach rewriter ih, rewrite, rewriteAll_eq,
      bind_map_left, map_bind]
    refine bind_mapM'_congr fun images length => ?_
    have visited := rewriter.visit_of_parts (.expr (.connect connective operands)) (images.map .expr) stack
      (by simpa [Node.parts] using length)
    simpa [Rewriter.ask, Node.withParts] using visited

theorem Expr.foldlM_visitsOfAll (exprs : List Expr) (stack : List Node) :
    (visitsOfAll exprs).foldlM rewriter.visit stack =
      (fun images => (images.map .expr).reverse ++ stack) <$> exprs.mapM' (Expr.rewrite rewriter) := by
  rw [visitsOfAll_eq]
  exact foldlM_visitsEach rewriter (fun expr _ => expr.foldlM_visits rewriter) stack

theorem Plan.foldlM_visits (plan : Plan) (stack : List Node) :
    plan.visits.foldlM rewriter.visit stack = (fun image => .plan image :: stack) <$> plan.rewrite rewriter := by
  induction plan using inductionOn generalizing stack with
  | scan s =>
    have visited := rewriter.visit_of_parts (.plan (.scan s)) [] stack rfl
    simpa [visits, rewrite, Rewriter.ask, Node.withParts] using visited
  | filter predicate source ih =>
    simp only [visits, List.foldlM_append, predicate.foldlM_visits, ih, rewrite, bind_map_left, map_bind, bind_assoc]
    refine bind_congr fun predicateImage => bind_congr fun image => ?_
    have visited : rewriter.visit (.plan image :: .expr predicateImage :: stack) (.plan (.filter predicate source)) =
        (· :: stack) <$> rewriter.ask (.plan (.filter predicateImage image)) :=
      rewriter.visit_of_parts (.plan (.filter predicate source)) [.expr predicateImage, .plan image] stack rfl
    simpa [Rewriter.ask] using visited
  | map columns source ih =>
    simp only [visits, List.foldlM_append, Expr.foldlM_visitsOfAll, ih, rewrite, Column.rewriteAll_eq, bind_map_left,
      map_bind, bind_assoc]
    refine bind_mapM'_congr fun images length => bind_congr fun image => ?_
    have visited := rewriter.visit_of_parts (.plan (.map columns source)) (images.map .expr ++ [.plan image]) stack
      (by simpa [Node.parts] using length)
    simpa [Rewriter.ask, Node.withParts] using visited
  | unionAll sources ih =>
    rw [visits, visitsOfAll_eq, List.foldlM_append, foldlM_visitsEach rewriter ih, rewrite, rewriteAll_eq,
      bind_map_left, map_bind]
    refine bind_mapM'_congr fun images length => ?_
    have visited := rewriter.visit_of_parts (.plan (.unionAll sources)) (images.map .plan) stack
      (by simpa [Node.parts] using length)
    simpa [Rewriter.ask, Node.withParts] using visited
  | groupBy key measures source ih =>
    simp only [visits, List.foldlM_append, Expr.foldlM_visitsOfAll, ih, rewrite, Expr.rewriteAll_eq, bind_map_left,
      map_bind, bind_assoc]
    refine bind_mapM'_congr fun images length => bind_congr fun image => ?_
    have visited := rewriter.visit_of_parts (.plan (.groupBy key measures source)) (images.map .expr ++ [.plan image]) stack
      (by simpa [Node.parts] using length)
    simpa [Rewriter.ask, Node.withParts] using visited

theorem mapM'_eq_pure {α : Type} {items : List α} {f : α → m α} (same : ∀ item ∈ items, f item = pure item) :
    items.mapM' f = pure items := by
  induction items with
  | nil => rfl
  | cons item items ih =>
    obtain ⟨first, rest⟩ := List.forall_mem_cons.mp same
    simp [first, ih rest]

theorem Expr.rewrite_empty (expr : Expr) : expr.rewrite ({} : Rewriter m) = pure expr := by
  induction expr using inductionOn with
  | named name => rfl
  | constant value => rfl
  | call name arguments ih =>
    rw [rewrite, rewriteAll_eq, mapM'_eq_pure ih, pure_bind]
    rfl
  | connect connective operands ih =>
    rw [rewrite, rewriteAll_eq, mapM'_eq_pure ih, pure_bind]
    rfl

theorem Column.rewriteAll_empty (columns : List Column) : Column.rewriteAll ({} : Rewriter m) columns = pure columns := by
  rw [rewriteAll_eq, mapM'_eq_pure fun expr _ => expr.rewrite_empty, map_pure, List.zipWith_map_right, List.zipWith_self,
    List.map_id']

theorem Plan.rewrite_empty (plan : Plan) : plan.rewrite ({} : Rewriter m) = pure plan := by
  induction plan using inductionOn with
  | scan s => rfl
  | filter predicate source ih =>
    rw [rewrite, predicate.rewrite_empty, ih, pure_bind, pure_bind]
    rfl
  | map columns source ih =>
    rw [rewrite, Column.rewriteAll_empty, ih, pure_bind, pure_bind]
    rfl
  | unionAll sources ih =>
    rw [rewrite, rewriteAll_eq, mapM'_eq_pure ih, pure_bind]
    rfl
  | groupBy key measures source ih =>
    rw [rewrite, Expr.rewriteAll_eq, mapM'_eq_pure fun expr _ => expr.rewrite_empty, ih, pure_bind, pure_bind]
    rfl

end DeltaQuery
