import DeltaQuery.Plan.Compile
import DeltaQuery.Proofs.SortedNames
import Mathlib.Logic.Unique
import Mathlib.Tactic.Simproc.ExistsAndEq

namespace DeltaQuery

theorem bind_eq_ok {ε α β : Type} {first : Except ε α} {rest : α → Except ε β} {result : β} :
    first >>= rest = .ok result ↔ ∃ value, first = .ok value ∧ rest value = .ok result := by
  cases first <;> simp [bind, Except.bind]

@[simp]
theorem Place.around_eq_ok {α : Type} {place : Place} {result : Except Failure α} {value : α} :
    place.around result = .ok value ↔ result = .ok value := by
  cases result <;> simp

@[simp]
theorem failing_eq_ok {α : Type} {result : Except Cause α} {value : α} :
    failing result = .ok value ↔ result = .ok value := by
  cases result <;> simp

theorem Projection.make_eq_ok {formulas : List Formula} {names : List String} {projection : Projection} :
    Projection.make formulas names = .ok projection ↔ formulas = projection.formulas ∧ names = projection.names := by
  unfold Projection.make
  constructor
  · intro made
    split at made <;> cases made
    exact ⟨rfl, rfl⟩
  · rintro ⟨rfl, rfl⟩
    simp [projection.aligned]

namespace Plan

mutual

def nodes : Plan → List Plan
  | .scan s => [.scan s]
  | .filter predicate source => .filter predicate source :: nodes source
  | .map columns source => .map columns source :: nodes source
  | .unionAll sources => .unionAll sources :: nodesOfAll sources
  | .groupBy key measures source => .groupBy key measures source :: nodes source

def nodesOfAll : List Plan → List Plan
  | [] => []
  | plan :: plans => nodes plan ++ nodesOfAll plans

end

theorem nodesOfAll_eq (plans : List Plan) : nodesOfAll plans = plans.flatMap nodes := by
  induction plans with
  | nil => rfl
  | cons plan plans ih => rw [nodesOfAll, ih, List.flatMap_cons]

-- A property of all plans, when every node has it if the plans below it do.
@[elab_as_elim]
theorem inductionOn {motive : Plan → Prop} (plan : Plan) (scan : ∀ s, motive (.scan s))
    (filter : ∀ predicate source, motive source → motive (.filter predicate source))
    (map : ∀ columns source, motive source → motive (.map columns source))
    (unionAll : ∀ sources, (∀ source ∈ sources, motive source) → motive (.unionAll sources))
    (groupBy : ∀ key measures source, motive source → motive (.groupBy key measures source)) : motive plan :=
  match plan with
  | .scan s => scan s
  | .filter predicate source => filter predicate source (inductionOn source scan filter map unionAll groupBy)
  | .map columns source => map columns source (inductionOn source scan filter map unionAll groupBy)
  | .unionAll sources => unionAll sources fun source _ => inductionOn source scan filter map unionAll groupBy
  | .groupBy key measures source =>
    groupBy key measures source (inductionOn source scan filter map unionAll groupBy)

def scan? : Plan → Option Scan
  | .scan s => some s
  | _ => none

def scans (plan : Plan) : List Scan := plan.nodes.filterMap scan?

section

attribute [local simp] nodes scan?

@[simp]
theorem scans_scan (s : Scan) : (scan s).scans = [s] := by
  simp [scans]

@[simp]
theorem scans_filter (predicate : Expr) (source : Plan) : (filter predicate source).scans = source.scans := by
  simp [scans, List.filterMap_cons]

@[simp]
theorem scans_map (columns : List Column) (source : Plan) : (map columns source).scans = source.scans := by
  simp [scans, List.filterMap_cons]

@[simp]
theorem scans_unionAll (sources : List Plan) : (unionAll sources).scans = sources.flatMap scans := by
  simp only [scans, nodes, nodesOfAll_eq, List.filterMap_cons, scan?, List.filterMap_flatMap]
  rfl

@[simp]
theorem scans_groupBy (key : List Expr) (measures : List Measure) (source : Plan) :
    (groupBy key measures source).scans = source.scans := by
  simp [scans, List.filterMap_cons]

end

def Groups (plan below : Plan) : Prop := ∃ key measures, groupBy key measures below ∈ plan.nodes

section

attribute [local simp] nodes

@[simp]
theorem groups_scan {s : Scan} {below : Plan} : ¬ (scan s).Groups below := by
  simp [Groups]

@[simp]
theorem groups_filter {predicate : Expr} {source below : Plan} :
    (filter predicate source).Groups below ↔ source.Groups below := by
  simp [Groups]

@[simp]
theorem groups_map {columns : List Column} {source below : Plan} :
    (map columns source).Groups below ↔ source.Groups below := by
  simp [Groups]

@[simp]
theorem groups_unionAll {sources : List Plan} {below : Plan} :
    (unionAll sources).Groups below ↔ ∃ source ∈ sources, source.Groups below := by
  simp only [Groups, nodes, nodesOfAll_eq, List.mem_cons, reduceCtorEq, false_or, List.mem_flatMap]
  constructor
  · rintro ⟨key, measures, source, member, inside⟩
    exact ⟨source, member, key, measures, inside⟩
  · rintro ⟨source, member, key, measures, inside⟩
    exact ⟨key, measures, source, member, inside⟩

@[simp]
theorem groups_groupBy {key : List Expr} {measures : List Measure} {source below : Plan} :
    (groupBy key measures source).Groups below ↔ below = source ∨ source.Groups below := by
  simp [Groups, exists_or]

end

section

variable {settings : Settings} {catalog after : Catalog} {op : Operator} {source : Plan}

attribute [local simp] materialize materializeFrom

theorem materialize_scan {s : Scan} :
    (scan s).materialize settings catalog = .ok (op, after) ↔
      ∃ feed, catalog.start s.name = .ok (feed, after) ∧ .scan s.name feed = op := by
  simp [bind_eq_ok]

theorem materialize_filter {predicate : Expr} :
    (filter predicate source).materialize settings catalog = .ok (op, after) ↔
      ∃ below, source.materialize settings catalog = .ok (below, after) ∧
        ∃ formula, predicate.resolve = .ok formula ∧ .filter formula below = op := by
  simp [bind_eq_ok]

theorem materialize_map {columns : List Column} :
    (map columns source).materialize settings catalog = .ok (op, after) ↔
      ∃ below, source.materialize settings catalog = .ok (below, after) ∧
        ∃ formulas, Expr.resolveEach .planColumn 0 (columns.map (·.expr)) = .ok formulas ∧
          ∃ projection, Projection.make formulas (Column.names columns) = .ok projection ∧ .map projection below = op := by
  simp [bind_eq_ok]

theorem materialize_unionAll {sources : List Plan} :
    (unionAll sources).materialize settings catalog = .ok (op, after) ↔
      ∃ children, materializeFrom settings 0 sources catalog = .ok (children, after) ∧ .unionAll children 0 = op := by
  simp [bind_eq_ok]

theorem materializeFrom_cons {plan : Plan} {plans : List Plan} {index : Nat} {children : List Operator} :
    materializeFrom settings index (plan :: plans) catalog = .ok (children, after) ↔
      ∃ child middle, plan.materialize settings catalog = .ok (child, middle) ∧
        ∃ others, materializeFrom settings (index + 1) plans middle = .ok (others, after) ∧ child :: others = children := by
  simp [bind_eq_ok]

theorem materialize_groupBy {key : List Expr} {measures : List Measure} :
    (groupBy key measures source).materialize settings catalog = .ok (op, after) ↔
      settings.emitMode.checkBounded source.metadata.cardinality = .ok () ∧
        ∃ below, source.materialize settings catalog = .ok (below, after) ∧
          ∃ formulas, Expr.resolveEach .planKey 0 key = .ok formulas ∧
            ∃ spec, GroupSpec.make formulas (Expr.keyNames key) (measures.map (·.field)) (measures.map (·.aggregate))
              (measures.map (·.outputName)) settings.emitMode settings.extremumStrategy = .ok spec ∧
              .groupBy { spec } below = op := by
  simp [bind_eq_ok, Unique.exists_iff]

end

end Plan

namespace Catalog

variable {catalog after : Catalog} {name : String} {source : Source} {feed : Feed}

theorem find_register (catalog : Catalog) (name : String) (source : Source) (other : String) :
    (catalog.register name source).find other = if other = name then .ok source else catalog.find other := by
  unfold find register
  rw [ByName.lookup_put]
  by_cases same : other = name <;> simp [same]

theorem start_eq_ok :
    catalog.start name = .ok (feed, after) ↔
      ∃ source, catalog.find name = .ok source ∧ source.start.1 = .ok feed ∧ catalog.register name source.start.2 = after := by
  simp [start, bind_eq_ok]

-- A source that is put back as it was leaves everything where it is found.
theorem find_register_found (found : catalog.find name = .ok source) (other : String) :
    (catalog.register name source).find other = catalog.find other := by
  rw [find_register]
  split
  · rename_i here
    rw [here, found]
  · rfl

theorem start_memory {records : List Record} (found : catalog.find name = .ok (.memory records))
    (started : catalog.start name = .ok (feed, after)) :
    feed = .replay records ∧ ∀ other, after.find other = catalog.find other := by
  obtain ⟨source, held, opened, rfl⟩ := start_eq_ok.mp started
  cases found.symm.trans held
  cases opened
  exact ⟨rfl, find_register_found found⟩

end Catalog

end DeltaQuery
