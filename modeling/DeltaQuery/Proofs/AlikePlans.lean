import DeltaQuery.Pipeline
import DeltaQuery.Plan.Rewrite
import DeltaQuery.Proofs.Mirrors
import DeltaQuery.Proofs.WellFormed

namespace DeltaQuery

-- Two causes that nobody can tell apart by what is reported of them.
def Cause.SameWords (cause other : Cause) : Prop := cause.kind = other.kind ∧ cause.text = other.text

def Failure.SameWords (failure other : Failure) : Prop := failure.kind = other.kind ∧ failure.message = other.message

instance : Std.Refl Cause.SameWords := ⟨fun _ => ⟨rfl, rfl⟩⟩

theorem Failure.Alike.sameWords {failure other : Failure} (alike : failure.Alike Cause.SameWords other) :
    failure.SameWords other := by
  have kind : failure.kind = other.kind := alike.cause.1
  refine ⟨kind, ?_⟩
  unfold message
  rw [kind, alike.places, alike.cause.2]

theorem Matches.sameWords {α : Type} {result other : Except Failure α}
    (matching : Matches (Failure.Alike Cause.SameWords) result other) : Matches Failure.SameWords result other := by
  cases matching with
  | ok value => exact .ok value
  | error alike => exact .error alike.sameWords

section

variable {α : Type} {result middle other : Except Cause α}

theorem Matches.symm (matching : Matches Cause.SameWords result other) : Matches Cause.SameWords other result := by
  cases matching with
  | ok value => exact .ok value
  | error alike => exact .error ⟨alike.1.symm, alike.2.symm⟩

theorem Matches.trans (first : Matches Cause.SameWords result middle) (later : Matches Cause.SameWords middle other) :
    Matches Cause.SameWords result other := by
  cases first with
  | ok value => exact later
  | error alike =>
    cases later with
    | error again => exact .error ⟨alike.1.trans again.1, alike.2.trans again.2⟩

end

variable {same : Cause → Cause → Prop}

namespace Operator

-- Trees of the same stages in the same states, whose formulas have the same values.
inductive Alike (same : Cause → Cause → Prop) : Operator → Operator → Prop
  | feed (f : Feed) : Alike same (.feed f) (.feed f)
  | scan (name : String) (f : Feed) : Alike same (.scan name f) (.scan name f)
  | filter {predicate twin : Formula} {source image : Operator} (alike : predicate.Alike same twin)
      (below : Alike same source image) : Alike same (.filter predicate source) (.filter twin image)
  | map {projection twin : Projection} {source image : Operator} (alike : projection.Alike same twin)
      (below : Alike same source image) : Alike same (.map projection source) (.map twin image)
  | unionAll {children images : List Operator} (cursor : Nat) (below : List.Forall₂ (Alike same) children images) :
      Alike same (.unionAll children cursor) (.unionAll images cursor)
  | groupBy {grouping twin : Grouping} {source image : Operator} (alike : grouping.Alike same twin)
      (below : Alike same source image) : Alike same (.groupBy grouping source) (.groupBy twin image)

mutual

theorem Alike.bounds {op image : Operator} :
    op.Alike same image → op.depth = image.depth ∧ op.remaining = image.remaining
  | .feed f => ⟨rfl, rfl⟩
  | .scan name f => ⟨rfl, rfl⟩
  | .filter alike below => by simp [depth, remaining, Alike.bounds below]
  | .map alike below => by simp [depth, remaining, Alike.bounds below]
  | .unionAll cursor below => by simp [depth, remaining, Alike.boundsOfAll below]
  | .groupBy alike below => by simp [depth, remaining, Alike.bounds below, alike.table, alike.drained]

theorem Alike.boundsOfAll {children images : List Operator} : List.Forall₂ (Alike same) children images →
    depthOfAll children = depthOfAll images ∧ remainingOfAll children = remainingOfAll images
  | .nil => ⟨rfl, rfl⟩
  | .cons first rest => by simp [depthOfAll, remainingOfAll, Alike.bounds first, Alike.boundsOfAll rest]

end

variable [Std.Refl same]

theorem pullAt_mirrors (depth : Nat) : (pullAt depth).Mirrors (pullAt depth) same (Alike same) := by
  induction depth with
  | zero =>
    intro op image cancelled alike
    have here := alike
    cases alike with
    | feed f =>
      simp only [pullAt]
      exact ⟨.refl _, rfl, .feed _⟩
    | scan name f =>
      simp only [pullAt]
      exact ⟨.refl _, rfl, .scan name _⟩
    | _ =>
      simp only [pullAt]
      exact ⟨.refl _, rfl, here⟩
  | succ depth ih =>
    intro op image cancelled alike
    cases alike with
    | feed f =>
      simp only [pullAt]
      exact ⟨.refl _, rfl, .feed _⟩
    | scan name f =>
      simp only [pullAt]
      exact ⟨.refl _, rfl, .scan name _⟩
    | @filter predicate twin source image alike below =>
      simp only [pullAt, below.bounds.2]
      exact (ih.filter alike _ source image cancelled below).map fun _ _ => .filter alike
    | @map projection twin source image alike below =>
      simp only [pullAt]
      exact (ih.map alike source image cancelled below).map fun _ _ => .map alike
    | @unionAll children images cursor below =>
      simp only [pullAt, Rotation.pull, below.length_eq]
      refine (ih.union _ ⟨children, cursor⟩ ⟨images, cursor⟩ cancelled ⟨rfl, below⟩).map ?_
      rintro ⟨children, _⟩ ⟨images, cursor⟩ ⟨rfl, below⟩
      exact .unionAll _ below
    | @groupBy grouping twin source image alike below =>
      simp only [pullAt]
      have mirrored := ih.grouped (fun _ _ alike => alike.bounds.2) ⟨grouping, source⟩ ⟨twin, image⟩ cancelled ⟨alike, below⟩
      exact mirrored.map fun grouped twin alike => .groupBy alike.grouping alike.source

theorem pull_mirrors : pull.Mirrors pull same (Alike same) := by
  intro op image cancelled alike
  rw [pull, pull, alike.bounds.1]
  exact pullAt_mirrors image.depth op image cancelled alike

end Operator

namespace Formula

variable {formulas twins : List Formula}

theorem Alike.evaluateAll (alike : List.Forall₂ (Alike same) formulas twins) (record : Record) :
    Matches same (evaluateAll record formulas) (evaluateAll record twins) := by
  induction alike with
  | nil =>
    rw [Formula.evaluateAll]
    exact .ok []
  | @cons formula twin formulas twins first rest ih =>
    rw [Formula.evaluateAll, Formula.evaluateAll]
    have matching := first record
    generalize formula.evaluate record = result at matching
    generalize twin.evaluate record = other at matching
    cases matching with
    | error alike => exact .error alike
    | ok value =>
      generalize Formula.evaluateAll record formulas = results at ih
      generalize Formula.evaluateAll record twins = others at ih
      cases ih with
      | error alike => exact .error alike
      | ok values => exact .ok (value :: values)

variable [Std.Refl same]

theorem Alike.join (alike : List.Forall₂ (Alike same) formulas twins) (record : Record) (connective : Connective)
    (sawNull : Bool) : Matches same (join record connective sawNull formulas) (join record connective sawNull twins) := by
  induction alike generalizing sawNull with
  | nil =>
    rw [Formula.join]
    exact .ok _
  | @cons formula twin formulas twins first rest ih =>
    rw [Formula.join, Formula.join]
    have matching := first record
    generalize formula.evaluate record = result at matching
    generalize twin.evaluate record = other at matching
    cases matching with
    | error alike => exact .error alike
    | ok value =>
      dsimp only
      split
      · exact .refl _
      · exact ih true
      · split
        · exact .refl _
        · exact ih sawNull

theorem Alike.call (alike : List.Forall₂ (Alike same) formulas twins) (function : Function) :
    (Formula.call function formulas).Alike same (.call function twins) := by
  intro record
  rw [evaluate, evaluate]
  have matching := Alike.evaluateAll alike record
  generalize Formula.evaluateAll record formulas = result at matching
  generalize Formula.evaluateAll record twins = other at matching
  cases matching with
  | ok values => exact .refl _
  | error alike => exact .error alike

theorem Alike.connect (alike : List.Forall₂ (Alike same) formulas twins) (connective : Connective) :
    (Formula.connect connective formulas).Alike same (.connect connective twins) := by
  intro record
  rw [evaluate, evaluate]
  exact Alike.join alike record connective false

end Formula

namespace Expr

-- Two expressions that no plan can tell apart.
structure Alike (expr twin : Expr) : Prop where
  outputName : expr.outputName = twin.outputName
  resolves : (∃ formula, expr.resolve = .ok formula) ↔ ∃ formula, twin.resolve = .ok formula
  values : ∀ formula other, expr.resolve = .ok formula → twin.resolve = .ok other → formula.Alike Cause.SameWords other

variable {expr twin : Expr} {exprs twins : List Expr}

theorem Alike.refl (expr : Expr) : expr.Alike expr where
  outputName := rfl
  resolves := Iff.rfl
  values formula other resolved again := by
    cases resolved.symm.trans again
    exact fun record => .refl _

theorem Alike.symm (alike : expr.Alike twin) : twin.Alike expr where
  outputName := alike.outputName.symm
  resolves := alike.resolves.symm
  values formula other resolved twinResolved record := (alike.values other formula twinResolved resolved record).symm

theorem Alike.resolve (alike : expr.Alike twin) {formula : Formula} (resolved : expr.resolve = .ok formula) :
    ∃ other, twin.resolve = .ok other ∧ formula.Alike Cause.SameWords other := by
  obtain ⟨other, twinResolved⟩ := alike.resolves.mp ⟨formula, resolved⟩
  exact ⟨other, twinResolved, alike.values formula other resolved twinResolved⟩

theorem alike_of_resolve (outputName : expr.outputName = twin.outputName)
    (forth : ∀ formula, expr.resolve = .ok formula → ∃ other, twin.resolve = .ok other ∧ formula.Alike Cause.SameWords other)
    (back : ∀ other, twin.resolve = .ok other → ∃ formula, expr.resolve = .ok formula) : expr.Alike twin where
  outputName := outputName
  resolves := ⟨fun ⟨formula, resolved⟩ => (forth formula resolved).imp fun _ => And.left,
    fun ⟨other, resolved⟩ => back other resolved⟩
  values formula other resolved twinResolved := by
    obtain ⟨found, foundResolved, alike⟩ := forth formula resolved
    cases foundResolved.symm.trans twinResolved
    exact alike

theorem Alike.trans {third : Expr} (alike : expr.Alike twin) (later : twin.Alike third) : expr.Alike third := by
  refine alike_of_resolve (alike.outputName.trans later.outputName) ?_ ?_
  · intro formula resolved
    obtain ⟨middle, twinResolved, same⟩ := alike.resolve resolved
    obtain ⟨other, thirdResolved, again⟩ := later.resolve twinResolved
    exact ⟨other, thirdResolved, fun record => (same record).trans (again record)⟩
  · exact fun other resolved => alike.resolves.mpr (later.resolves.mpr ⟨other, resolved⟩)

theorem Alike.resolveEach (alike : List.Forall₂ Alike exprs twins) {place : Nat → Place} {index : Nat}
    {formulas : List Formula} (resolved : resolveEach place index exprs = .ok formulas) :
    ∃ others, resolveEach place index twins = .ok others ∧ List.Forall₂ (Formula.Alike Cause.SameWords) formulas others := by
  induction alike generalizing index formulas with
  | nil =>
    cases resolved
    exact ⟨[], rfl, .nil⟩
  | cons same rest ih =>
    obtain ⟨formula, first, formulas, later, rfl⟩ := resolveEach_cons.mp resolved
    obtain ⟨other, twinResolved, alike⟩ := same.resolve first
    obtain ⟨others, othersResolved, each⟩ := ih later
    exact ⟨other :: others, resolveEach_cons.mpr ⟨other, twinResolved, others, othersResolved, rfl⟩, .cons alike each⟩

theorem alikeEach_symm (alike : List.Forall₂ Alike exprs twins) : List.Forall₂ Alike twins exprs :=
  (alike.imp fun _ _ same => same.symm).flip

theorem Alike.call (alike : List.Forall₂ Alike exprs twins) (name : String) :
    (Expr.call name exprs).Alike (.call name twins) := by
  have forth {exprs twins : List Expr} (alike : List.Forall₂ Alike exprs twins) (formula : Formula)
      (resolved : (Expr.call name exprs).resolve = .ok formula) :
      ∃ other, (Expr.call name twins).resolve = .ok other ∧ formula.Alike Cause.SameWords other := by
    obtain ⟨function, known, formulas, arguments, rfl⟩ := resolve_call.mp resolved
    obtain ⟨others, twinArguments, each⟩ := Alike.resolveEach alike arguments
    rw [alike.length_eq] at known
    exact ⟨_, resolve_call.mpr ⟨function, known, others, twinArguments, rfl⟩, .call each function⟩
  refine alike_of_resolve rfl (forth alike) fun other resolved => ?_
  exact (forth (alikeEach_symm alike) other resolved).imp fun _ => And.left

theorem Alike.connect (alike : List.Forall₂ Alike exprs twins) (connective : Connective) :
    (Expr.connect connective exprs).Alike (.connect connective twins) := by
  have forth {exprs twins : List Expr} (alike : List.Forall₂ Alike exprs twins) (formula : Formula)
      (resolved : (Expr.connect connective exprs).resolve = .ok formula) :
      ∃ other, (Expr.connect connective twins).resolve = .ok other ∧ formula.Alike Cause.SameWords other := by
    obtain ⟨formulas, operands, rfl⟩ := resolve_connect.mp resolved
    obtain ⟨others, twinOperands, each⟩ := Alike.resolveEach alike operands
    exact ⟨_, resolve_connect.mpr ⟨others, twinOperands, rfl⟩, .connect each connective⟩
  refine alike_of_resolve rfl (forth alike) fun other resolved => ?_
  exact (forth (alikeEach_symm alike) other resolved).imp fun _ => And.left

end Expr

structure Column.Alike (column twin : Column) : Prop where
  expr : column.expr.Alike twin.expr
  label : column.label = twin.label

namespace Plan

inductive Alike : Plan → Plan → Prop
  | scan (s : Scan) : Alike (.scan s) (.scan s)
  | filter {predicate twin : Expr} {source image : Plan} (same : predicate.Alike twin) (below : Alike source image) :
      Alike (.filter predicate source) (.filter twin image)
  | map {columns twins : List Column} {source image : Plan} (same : List.Forall₂ Column.Alike columns twins)
      (below : Alike source image) : Alike (.map columns source) (.map twins image)
  | unionAll {sources images : List Plan} (below : List.Forall₂ Alike sources images) :
      Alike (.unionAll sources) (.unionAll images)
  | groupBy {key twins : List Expr} {source image : Plan} (measures : List Measure)
      (same : List.Forall₂ Expr.Alike key twins) (below : Alike source image) :
      Alike (.groupBy key measures source) (.groupBy twins measures image)

mutual

theorem Alike.symm {plan image : Plan} : Alike plan image → Alike image plan
  | .scan s => .scan s
  | .filter same below => .filter same.symm (Alike.symm below)
  | .map same below => .map (same.imp fun _ _ same => ⟨same.expr.symm, same.label.symm⟩).flip (Alike.symm below)
  | .unionAll below => .unionAll (Alike.symmOfAll below)
  | .groupBy measures same below => .groupBy measures (Expr.alikeEach_symm same) (Alike.symm below)

theorem Alike.symmOfAll {plans images : List Plan} : List.Forall₂ Alike plans images → List.Forall₂ Alike images plans
  | .nil => .nil
  | .cons first rest => .cons (Alike.symm first) (Alike.symmOfAll rest)

end

mutual

theorem Alike.cardinality {plan image : Plan} :
    Alike plan image → plan.metadata.cardinality = image.metadata.cardinality
  | .scan s => rfl
  | .filter same below => by simpa only [metadata] using Alike.cardinality below
  | .map same below => by simpa only [metadata] using Alike.cardinality below
  | .unionAll below => by simpa only [metadata] using Alike.cardinalityOfAll below .boundedFits
  | .groupBy measures same below => by simp only [metadata]

theorem Alike.cardinalityOfAll {plans images : List Plan} :
    List.Forall₂ Alike plans images → ∀ seen, cardinalityOfAll seen plans = Plan.cardinalityOfAll seen images
  | .nil, seen => rfl
  | .cons first rest, seen => by
    rw [Plan.cardinalityOfAll, Plan.cardinalityOfAll, Alike.cardinality first, Alike.cardinalityOfAll rest]

end

end Plan

theorem Column.alike_names {columns twins : List Column} (alike : List.Forall₂ Column.Alike columns twins) :
    Column.names columns = Column.names twins := by
  refine List.ext_getElem (by simp [names, alike.length_eq]) fun i inside twinInside => ?_
  simp only [names, List.length_mapIdx] at inside twinInside
  have same := alike.get inside twinInside
  simp only [List.get_eq_getElem] at same
  simp [names, same.label, same.expr.outputName]

theorem Expr.alike_keyNames {key twins : List Expr} (alike : List.Forall₂ Expr.Alike key twins) :
    Expr.keyNames key = Expr.keyNames twins := by
  refine List.ext_getElem (by simp [keyNames, alike.length_eq]) fun i inside twinInside => ?_
  simp only [keyNames, List.length_mapIdx] at inside twinInside
  have same := alike.get inside twinInside
  simp only [List.get_eq_getElem] at same
  simp [keyNames, same.outputName]

theorem GroupSpec.make_alike {key twins : List Formula} (alike : List.Forall₂ (Formula.Alike same) key twins)
    {keyNames fields : List String} {aggregates : List Aggregate} {names : List String} {mode : EmitMode}
    {strategy : ExtremumStrategy} {spec : GroupSpec}
    (made : GroupSpec.make key keyNames fields aggregates names mode strategy = .ok spec) :
    ∃ twin, GroupSpec.make twins keyNames fields aggregates names mode strategy = .ok twin ∧ spec.Alike same twin := by
  unfold GroupSpec.make at made ⊢
  split at made
  · split at made <;> cases made
    rename_i aligned matching
    exact ⟨_, (dif_pos (alike.length_eq.symm.trans aligned)).trans (if_neg matching), rfl, alike, rfl, rfl, rfl⟩
  · cases made

def Rewriter.ofExprs (handler : Expr → Expr) : Rewriter Id := { onExpr := some handler }

section

variable {handler : Expr → Expr}

mutual

-- Expressions are rewritten from the inside out, so every one of them that the handler sees is alike already.
theorem Expr.rewrite_alike (preserves : ∀ expr, (handler expr).Alike expr) :
    (expr : Expr) → Expr.Alike (expr.rewrite (.ofExprs handler)) expr
  | .variable _ => preserves _
  | .constant _ => preserves _
  | .call name arguments => (preserves _).trans (.call (rewriteAll_alike preserves arguments) name)
  | .connect connective operands => (preserves _).trans (.connect (rewriteAll_alike preserves operands) connective)

theorem Expr.rewriteAll_alike (preserves : ∀ expr, (handler expr).Alike expr) :
    (exprs : List Expr) → List.Forall₂ Expr.Alike (Expr.rewriteAll (.ofExprs handler) exprs) exprs
  | [] => .nil
  | expr :: exprs => .cons (rewrite_alike preserves expr) (rewriteAll_alike preserves exprs)

end

theorem Column.rewriteAll_alike (preserves : ∀ expr, (handler expr).Alike expr) (columns : List Column) :
    List.Forall₂ Column.Alike (Column.rewriteAll (.ofExprs handler) columns) columns := by
  induction columns with
  | nil => exact .nil
  | cons column columns ih => exact .cons ⟨column.expr.rewrite_alike preserves, rfl⟩ ih

mutual

theorem Plan.rewrite_alike (preserves : ∀ expr, (handler expr).Alike expr) :
    (plan : Plan) → Plan.Alike (plan.rewrite (.ofExprs handler)) plan
  | .scan s => .scan s
  | .filter predicate source => .filter (predicate.rewrite_alike preserves) (rewrite_alike preserves source)
  | .map columns source => .map (Column.rewriteAll_alike preserves columns) (rewrite_alike preserves source)
  | .unionAll sources => .unionAll (rewriteAll_alike preserves sources)
  | .groupBy key measures source =>
    .groupBy measures (Expr.rewriteAll_alike preserves key) (rewrite_alike preserves source)

theorem Plan.rewriteAll_alike (preserves : ∀ expr, (handler expr).Alike expr) :
    (plans : List Plan) → List.Forall₂ Plan.Alike (Plan.rewriteAll (.ofExprs handler) plans) plans
  | [] => .nil
  | plan :: plans => .cons (rewrite_alike preserves plan) (rewriteAll_alike preserves plans)

end

end

namespace Plan

variable {settings : Settings} {catalog after : Catalog} {op : Operator}

def CompilesAlike (settings : Settings) (plan image : Plan) : Prop :=
  ∀ catalog op after, plan.materialize settings catalog = .ok (op, after) →
    ∃ twin, image.materialize settings catalog = .ok (twin, after) ∧ op.Alike Cause.SameWords twin

theorem materializeFrom_alike {sources images : List Plan} (each : List.Forall₂ (CompilesAlike settings) sources images)
    {index : Nat} {children : List Operator}
    (compiled : materializeFrom settings index sources catalog = .ok (children, after)) :
    ∃ twins, materializeFrom settings index images catalog = .ok (twins, after) ∧
      List.Forall₂ (Operator.Alike Cause.SameWords) children twins := by
  induction each generalizing index catalog children with
  | nil =>
    cases compiled
    exact ⟨[], rfl, .nil⟩
  | cons same rest ih =>
    obtain ⟨child, middle, first, others, later, rfl⟩ := materializeFrom_cons.mp compiled
    obtain ⟨twin, imageCompiled, childAlike⟩ := same _ _ _ first
    obtain ⟨twins, twinsCompiled, othersAlike⟩ := ih later
    exact ⟨twin :: twins, materializeFrom_cons.mpr ⟨twin, middle, imageCompiled, twins, twinsCompiled, rfl⟩,
      .cons childAlike othersAlike⟩

-- Plans alike compile to trees alike, and do the same to the catalog.
theorem Alike.compilesAlike {plan image : Plan} (alike : plan.Alike image) : CompilesAlike settings plan image := by
  induction plan using inductionOn generalizing image with
  | scan s =>
    intro catalog op after compiled
    cases alike
    obtain ⟨feed, _, rfl⟩ := materialize_scan.mp compiled
    exact ⟨_, compiled, .scan s.name feed⟩
  | filter predicate source ih =>
    intro catalog op after compiled
    cases alike with
    | filter same below =>
      obtain ⟨op, sourceCompiled, formula, resolved, rfl⟩ := materialize_filter.mp compiled
      obtain ⟨twin, imageCompiled, opAlike⟩ := ih below _ _ _ sourceCompiled
      obtain ⟨other, twinResolved, formulaAlike⟩ := same.resolve resolved
      exact ⟨_, materialize_filter.mpr ⟨twin, imageCompiled, other, twinResolved, rfl⟩, .filter formulaAlike opAlike⟩
  | map columns source ih =>
    intro catalog op after compiled
    cases alike with
    | map same below =>
      obtain ⟨op, sourceCompiled, formulas, resolved, projection, made, rfl⟩ := materialize_map.mp compiled
      obtain ⟨twin, imageCompiled, opAlike⟩ := ih below _ _ _ sourceCompiled
      have exprs := List.forall₂_map_left_iff.mpr (List.forall₂_map_right_iff.mpr (same.imp fun _ _ same => same.expr))
      obtain ⟨others, twinResolved, formulasAlike⟩ := Expr.Alike.resolveEach exprs resolved
      obtain ⟨reflected, twinMade⟩ := projection_make _ twinResolved
      obtain ⟨rfl, names⟩ := Projection.make_eq_ok.mp made
      obtain ⟨rfl, twinNames⟩ := Projection.make_eq_ok.mp twinMade
      rw [Column.alike_names same] at names
      exact ⟨_, materialize_map.mpr ⟨twin, imageCompiled, _, twinResolved, reflected, twinMade, rfl⟩,
        .map ⟨names.symm.trans twinNames, formulasAlike⟩ opAlike⟩
  | unionAll sources ih =>
    intro catalog op after compiled
    cases alike with
    | @unionAll _ images below =>
      have each : List.Forall₂ (CompilesAlike settings) sources images :=
        ((List.forall₂_and_left _ _).mpr ⟨ih, below⟩).imp fun _ _ both => both.1 both.2
      obtain ⟨children, childrenCompiled, rfl⟩ := materialize_unionAll.mp compiled
      obtain ⟨twins, twinsCompiled, each⟩ := materializeFrom_alike each childrenCompiled
      exact ⟨_, materialize_unionAll.mpr ⟨twins, twinsCompiled, rfl⟩, .unionAll 0 each⟩
  | groupBy key measures source ih =>
    intro catalog op after compiled
    cases alike with
    | groupBy _ same below =>
      obtain ⟨bounded, op, sourceCompiled, formulas, resolved, spec, made, rfl⟩ := materialize_groupBy.mp compiled
      obtain ⟨twin, imageCompiled, opAlike⟩ := ih below _ _ _ sourceCompiled
      obtain ⟨others, twinResolved, formulasAlike⟩ := Expr.Alike.resolveEach same resolved
      obtain ⟨reflected, twinMade, specAlike⟩ := GroupSpec.make_alike formulasAlike made
      rw [below.cardinality] at bounded
      rw [Expr.alike_keyNames same] at twinMade
      exact ⟨_, materialize_groupBy.mpr ⟨bounded, twin, imageCompiled, others, twinResolved, reflected, twinMade, rfl⟩,
        .groupBy ⟨specAlike, rfl, rfl, rfl⟩ opAlike⟩

-- A rewriting that keeps the names, the resolution and the values of all expressions keeps plans: the new plan compiles
-- exactly when the old one does, and does the same to the sources; every pull of what it compiles to gives the same
-- record, end or failure, whatever has been pulled before and whether or not the run has been called off; and so does a
-- run into any sink.
theorem rewrite_indistinguishable (handler : Expr → Expr)
    (sameName : ∀ expr, (handler expr).outputName = expr.outputName)
    (sameResolution : ∀ expr,
      (∃ formula, (handler expr).resolve = .ok formula) ↔ ∃ formula, expr.resolve = .ok formula)
    (sameValues : ∀ expr rewritten formula, (handler expr).resolve = .ok rewritten → expr.resolve = .ok formula →
      ∀ record, Matches Cause.SameWords (rewritten.evaluate record) (formula.evaluate record))
    (settings : Settings) (catalog : Catalog) (plan : Plan) :
    let image : Plan := plan.rewrite (Rewriter.ofExprs handler)
    ((∃ op after, image.materialize settings catalog = .ok (op, after)) ↔
      ∃ op after, plan.materialize settings catalog = .ok (op, after)) ∧
    ∀ op twin after last, plan.materialize settings catalog = .ok (op, after) →
      image.materialize settings catalog = .ok (twin, last) →
      last = after ∧
        (∀ signals, List.Forall₂ (Matches Failure.SameWords) (Operator.pull.answers signals twin)
          (Operator.pull.answers signals op)) ∧
        ∀ (τ : Type) (sink : Sink τ) (output : τ),
          Matches Failure.SameWords (Pipeline.run sink twin output).1 (Pipeline.run sink op output).1 ∧
            (Pipeline.run sink twin output).2 = (Pipeline.run sink op output).2 := by
  intro image
  have alike : image.Alike plan := rewrite_alike (fun expr => ⟨sameName expr, sameResolution expr, sameValues expr⟩) plan
  refine ⟨⟨?_, ?_⟩, ?_⟩
  · rintro ⟨op, after, compiled⟩
    obtain ⟨twin, twinCompiled, _⟩ := alike.compilesAlike _ _ _ compiled
    exact ⟨twin, after, twinCompiled⟩
  · rintro ⟨op, after, compiled⟩
    obtain ⟨twin, twinCompiled, _⟩ := alike.symm.compilesAlike _ _ _ compiled
    exact ⟨twin, after, twinCompiled⟩
  · intro op twin after last compiled twinCompiled
    obtain ⟨other, otherCompiled, opAlike⟩ := alike.compilesAlike _ _ _ twinCompiled
    cases otherCompiled.symm.trans compiled
    refine ⟨rfl, fun signals => ?_, fun τ sink output => ?_⟩
    · exact (Operator.pull_mirrors.answers signals opAlike).imp fun _ _ matching => matching.sameWords
    · unfold Pipeline.run
      rw [opAlike.bounds.2]
      obtain ⟨result, written⟩ := Operator.pull_mirrors.runFrom sink op.remaining false output 0 opAlike
      exact ⟨result.sameWords, written⟩

end Plan

def Comparison.opposite : Comparison → Comparison
  | .eq => .notEq
  | .notEq => .eq
  | .lt => .gtEq
  | .gtEq => .lt
  | .gt => .ltEq
  | .ltEq => .gt

theorem Comparison.accepts_opposite (comparison : Comparison) (order : Ordering) :
    comparison.opposite.accepts order = !comparison.accepts order := by
  cases comparison <;> cases order <;> rfl

theorem Comparison.apply_opposite (comparison : Comparison) (left right : Value) :
    comparison.opposite.apply left right = (comparison.apply left right).bind Function.negation := by
  unfold Comparison.apply
  split
  · rfl
  · cases Comparison.order left right with
    | error cause => rfl
    | ok order => exact congrArg (Except.ok ∘ Value.bool) (comparison.accepts_opposite order)

namespace Formula

def negated (formula : Formula) : Formula := .call .not [formula]

theorem evaluate_negated (formula : Formula) (record : Record) :
    formula.negated.evaluate record = (formula.evaluate record).bind Function.negation := by
  rw [negated, evaluate, evaluateAll, evaluateAll]
  cases formula.evaluate record <;> rfl

-- What fails in a comparison fails alike in its opposite, and NULL is the opposite of NULL.
theorem evaluate_opposite (comparison : Comparison) (left right : Formula) (record : Record) :
    (Formula.call (.compare comparison.opposite) [left, right]).evaluate record =
      (negated (.call (.compare comparison) [left, right])).evaluate record := by
  rw [evaluate_negated]
  simp only [evaluate, evaluateAll]
  cases left.evaluate record with
  | error cause => rfl
  | ok first =>
    cases right.evaluate record with
    | error cause => rfl
    | ok second => exact comparison.apply_opposite first second

end Formula

def Expr.unnegated : Expr → Expr
  | .call "not" [.call "=" [left, right]] => .call "!=" [left, right]
  | expr => expr

theorem Expr.resolveEach_pair {place : Nat → Place} {left right : Expr} {formulas : List Formula} :
    resolveEach place 0 [left, right] = .ok formulas ↔
      ∃ first, left.resolve = .ok first ∧ ∃ second, right.resolve = .ok second ∧ [first, second] = formulas := by
  have none {formulas : List Formula} : resolveEach place 2 [] = .ok formulas ↔ [] = formulas := by simp [resolveEach]
  simp only [resolveEach_cons, none]
  simp

theorem Expr.unnegated_alike (expr : Expr) : expr.unnegated.Alike expr := by
  unfold unnegated
  split
  · rename_i left right
    have notEqual : Function.resolve "!=" 2 = .ok (.compare .notEq) := by decide +kernel
    have equal : Function.resolve "=" 2 = .ok (.compare .eq) := by decide +kernel
    have negation : Function.resolve "not" 1 = .ok .not := by decide +kernel
    refine alike_of_resolve rfl ?_ ?_
    · intro formula resolved
      obtain ⟨function, known, formulas, pair, rfl⟩ := resolve_call.mp resolved
      cases notEqual.symm.trans known
      obtain ⟨first, leftResolved, second, rightResolved, rfl⟩ := resolveEach_pair.mp pair
      have inner : (call "=" [left, right]).resolve = .ok (.call (.compare .eq) [first, second]) :=
        resolve_call.mpr ⟨_, equal, _, resolveEach_pair.mpr ⟨first, leftResolved, second, rightResolved, rfl⟩, rfl⟩
      refine ⟨_, resolve_call.mpr ⟨_, negation, _, resolveEach_cons.mpr ⟨_, inner, [], rfl, rfl⟩, rfl⟩, ?_⟩
      intro record
      change Matches _ ((Formula.call (.compare Comparison.eq.opposite) [first, second]).evaluate record) _
      rw [Formula.evaluate_opposite]
      exact .refl _
    · intro formula resolved
      obtain ⟨_, _, formulas, operand, rfl⟩ := resolve_call.mp resolved
      obtain ⟨_, inner, _⟩ := resolveEach_cons.mp operand
      obtain ⟨_, _, _, pair, _⟩ := resolve_call.mp inner
      obtain ⟨first, leftResolved, second, rightResolved, rfl⟩ := resolveEach_pair.mp pair
      exact ⟨_, resolve_call.mpr
        ⟨_, notEqual, _, resolveEach_pair.mpr ⟨first, leftResolved, second, rightResolved, rfl⟩, rfl⟩⟩
  · exact .refl expr

namespace Plan

def comparing : Plan :=
  let unlike : Expr := .call "not" [.call "=" [.variable "k", .constant (.int 1)]]
  .map [⟨unlike, "unlike"⟩, ⟨.variable "k", ""⟩] (.filter (.connect .or [unlike, .variable "v"]) (.scan { name := "list" }))

theorem rewrite_indistinguishable_unnegated :
    let catalog : Catalog := ⟨[("list", .memory [⟨[("k", .int 1), ("v", .bool false)], .insert⟩, ⟨[("k", .int 2)], .insert⟩])]⟩
    let image : Plan := comparing.rewrite (Rewriter.ofExprs Expr.unnegated)
    image ≠ comparing ∧ ∃ op twin after, comparing.materialize {} catalog = .ok (op, after) ∧
      image.materialize {} catalog = .ok (twin, after) ∧
      (Operator.pull op false).answer = .ok (some ⟨[("unlike", .bool true), ("k", .int 2)], .insert⟩) ∧
      ∀ signals, List.Forall₂ (Matches Failure.SameWords) (Operator.pull.answers signals twin)
        (Operator.pull.answers signals op) := by
  intro catalog image
  have preserves (expr : Expr) := expr.unnegated_alike
  obtain ⟨compiles, same⟩ := rewrite_indistinguishable Expr.unnegated (fun expr => (preserves expr).outputName)
    (fun expr => (preserves expr).resolves) (fun expr => (preserves expr).values) {} catalog comparing
  obtain ⟨twin, last, twinCompiled⟩ := compiles.mpr ⟨_, _, rfl⟩
  obtain ⟨rfl, answers, _⟩ := same _ twin _ last rfl twinCompiled
  exact ⟨by decide +kernel, _, twin, _, rfl, twinCompiled, by decide +kernel, answers⟩

end Plan

end DeltaQuery
