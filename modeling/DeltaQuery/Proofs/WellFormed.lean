import DeltaQuery.Proofs.Compiling

namespace DeltaQuery

def Function.Known (call : String × Nat) : Prop :=
  ∃ function, Function.named? call.1 = some function ∧ function.takes call.2 = true

theorem Function.resolve_iff {name : String} {count : Nat} :
    (∃ function, Function.resolve name count = .ok function) ↔ Function.Known (name, count) := by
  unfold Function.resolve Function.Known
  cases Function.named? name with
  | none => simp
  | some function => by_cases takes : function.takes count = true <;> simp [takes]

namespace Expr

mutual

def calls : Expr → List (String × Nat)
  | .variable _ => []
  | .constant _ => []
  | .call name arguments => (name, arguments.length) :: callsOfAll arguments
  | .connect _ operands => callsOfAll operands

def callsOfAll : List Expr → List (String × Nat)
  | [] => []
  | expr :: exprs => calls expr ++ callsOfAll exprs

end

theorem callsOfAll_eq (exprs : List Expr) : callsOfAll exprs = exprs.flatMap calls := by
  induction exprs with
  | nil => rfl
  | cons expr exprs ih => rw [callsOfAll, ih, List.flatMap_cons]

@[elab_as_elim]
theorem inductionOn {motive : Expr → Prop} (expr : Expr) (named : ∀ name, motive (.variable name))
    (constant : ∀ value, motive (.constant value))
    (call : ∀ name arguments, (∀ argument ∈ arguments, motive argument) → motive (.call name arguments))
    (connect : ∀ connective operands, (∀ operand ∈ operands, motive operand) → motive (.connect connective operands)) :
    motive expr :=
  match expr with
  | .variable name => named name
  | .constant value => constant value
  | .call name arguments => call name arguments fun argument _ => inductionOn argument named constant call connect
  | .connect connective operands =>
    connect connective operands fun operand _ => inductionOn operand named constant call connect

theorem resolveFrom_eq (parent : String) (index : Nat) (exprs : List Expr) :
    resolveFrom parent index exprs = resolveEach (.planArgument · parent) index exprs := by
  induction exprs generalizing index with
  | nil => rfl
  | cons expr exprs ih =>
    rw [resolveFrom, ih]
    rfl

theorem resolveEach_cons {place : Nat → Place} {index : Nat} {expr : Expr} {exprs : List Expr} {formulas : List Formula} :
    resolveEach place index (expr :: exprs) = .ok formulas ↔
      ∃ formula, expr.resolve = .ok formula ∧
        ∃ others, resolveEach place (index + 1) exprs = .ok others ∧ formula :: others = formulas := by
  rw [resolveEach]
  cases expr.resolve with
  | error failure => simp
  | ok formula => cases resolveEach place (index + 1) exprs <;> simp [Except.map]

theorem resolve_call {name : String} {arguments : List Expr} {formula : Formula} :
    (call name arguments).resolve = .ok formula ↔
      ∃ function, Function.resolve name arguments.length = .ok function ∧
        ∃ formulas, resolveEach (.planArgument · name) 0 arguments = .ok formulas ∧ .call function formulas = formula := by
  rw [resolve, resolveFrom_eq]
  cases Function.resolve name arguments.length with
  | error cause => simp
  | ok function => cases resolveEach (.planArgument · name) 0 arguments <;> simp [Except.map]

theorem resolve_connect {connective : Connective} {operands : List Expr} {formula : Formula} :
    (connect connective operands).resolve = .ok formula ↔
      ∃ formulas, resolveEach (.planArgument · connective.name) 0 operands = .ok formulas ∧
        .connect connective formulas = formula := by
  rw [resolve, resolveFrom_eq]
  cases resolveEach (.planArgument · connective.name) 0 operands <;> simp [Except.map]

theorem resolveEach_iff (place : Nat → Place) (index : Nat) (exprs : List Expr) :
    (∃ formulas, resolveEach place index exprs = .ok formulas) ↔ ∀ expr ∈ exprs, ∃ formula, expr.resolve = .ok formula := by
  induction exprs generalizing index with
  | nil => simp [resolveEach]
  | cons expr exprs ih =>
    rw [List.forall_mem_cons, ← ih (index + 1), resolveEach]
    cases expr.resolve with
    | error failure => simp
    | ok formula =>
      cases resolveEach place (index + 1) exprs <;> simp [Except.map]

theorem resolveEach_length {place : Nat → Place} {index : Nat} {exprs : List Expr} {formulas : List Formula}
    (resolved : resolveEach place index exprs = .ok formulas) : formulas.length = exprs.length := by
  induction exprs generalizing index formulas with
  | nil =>
    cases resolved
    rfl
  | cons expr exprs ih =>
    rw [resolveEach] at resolved
    split at resolved
    · cases resolved
    · cases rest : resolveEach place (index + 1) exprs with
      | error failure =>
        rw [rest] at resolved
        cases resolved
      | ok others =>
        rw [rest] at resolved
        cases resolved
        rw [List.length_cons, List.length_cons, ih rest]

theorem resolve_iff (expr : Expr) : (∃ formula, expr.resolve = .ok formula) ↔ ∀ call ∈ expr.calls, Function.Known call := by
  have argumentsFollow {exprs : List Expr}
      (each : ∀ expr ∈ exprs, (∃ formula, expr.resolve = .ok formula) ↔ ∀ call ∈ expr.calls, Function.Known call)
      (parent : String) : (∃ formulas, resolveFrom parent 0 exprs = .ok formulas) ↔
        ∀ call ∈ callsOfAll exprs, Function.Known call := by
    rw [resolveFrom_eq, resolveEach_iff, callsOfAll_eq, List.forall_mem_flatMap]
    exact forall₂_congr each
  induction expr using inductionOn with
  | named name => simp [resolve, calls]
  | constant value => simp [resolve, calls]
  | call name arguments ih =>
    rw [calls, List.forall_mem_cons, ← Function.resolve_iff, ← argumentsFollow ih name, resolve]
    cases Function.resolve name arguments.length with
    | error cause => simp
    | ok function => cases resolveFrom name 0 arguments <;> simp [Except.map]
  | connect connective operands ih =>
    rw [calls, ← argumentsFollow ih connective.name, resolve]
    cases resolveFrom connective.name 0 operands <;> simp [Except.map]

end Expr

def Source.Opens : Source → Prop
  | .memory _ => True
  | .stream _ opened => opened = false
  | .file _ bytes => bytes.isSome
  | .script _ => True
  | .refusing _ => False

-- A source that opens once.
def Source.OneShot : Source → Prop
  | .stream .. => True
  | _ => False

theorem Source.start_iff (source : Source) : (∃ feed, source.start.1 = .ok feed) ↔ source.Opens := by
  cases source with
  | stream bytes opened => cases opened <;> simp [start, Opens]
  | file path bytes => cases bytes <;> simp [start, Opens]
  | _ => simp [start, Opens]

theorem Source.opens_again {source : Source} (opens : source.Opens) : source.start.2.Opens ↔ ¬ source.OneShot := by
  cases source with
  | stream bytes opened => cases opened <;> simp [start, Opens, OneShot]
  | file path bytes => cases bytes <;> simp_all [start, Opens, OneShot]
  | _ => simp_all [start, Opens, OneShot]

theorem Source.oneShot_start (source : Source) : source.start.2.OneShot ↔ source.OneShot := by
  cases source with
  | stream bytes opened => cases opened <;> simp [start, OneShot]
  | file path bytes => cases bytes <;> simp [start, OneShot]
  | _ => simp [start, OneShot]

namespace Catalog

def startAll : List String → Catalog → Except Failure Catalog
  | [], catalog => .ok catalog
  | name :: names, catalog => do
    let (_, catalog) ← catalog.start name
    startAll names catalog

-- Every name is that of a source that opens, and one that opens once is named once.
structure Serves (catalog : Catalog) (names : List String) : Prop where
  opens : ∀ name ∈ names, ∃ source, catalog.find name = .ok source ∧ source.Opens
  once : ∀ name source, catalog.find name = .ok source → source.OneShot → names.count name ≤ 1

theorem startAll_append {names more : List String} {catalog after : Catalog} :
    startAll (names ++ more) catalog = .ok after ↔
      ∃ middle, startAll names catalog = .ok middle ∧ startAll more middle = .ok after := by
  induction names generalizing catalog with
  | nil => simp [startAll]
  | cons name names ih =>
    simp only [List.cons_append, startAll, bind_eq_ok, Prod.exists, ih]
    constructor
    · rintro ⟨feed, started, starts, middle, first, rest⟩
      exact ⟨middle, ⟨feed, started, starts, first⟩, rest⟩
    · rintro ⟨middle, ⟨feed, started, starts, first⟩, rest⟩
      exact ⟨feed, started, starts, middle, first, rest⟩

section

variable {catalog : Catalog} {name : String} {names : List String} {source : Source}
variable (found : catalog.find name = .ok source) (opens : source.Opens)

include found opens

theorem Serves.cons (later : (catalog.register name source.start.2).Serves names) : catalog.Serves (name :: names) := by
  obtain ⟨opensLater, once⟩ := later
  refine ⟨?_, ?_⟩
  · refine List.forall_mem_cons.mpr ⟨⟨source, found, opens⟩, ?_⟩
    intro other member
    obtain ⟨held, foundLater, opensOther⟩ := opensLater other member
    rw [find_register] at foundLater
    by_cases same : other = name
    · exact ⟨source, same ▸ found, opens⟩
    · exact ⟨held, by simpa [same] using foundLater, opensOther⟩
  · intro other held foundOther oneShot
    by_cases same : other = name
    · subst same
      cases found.symm.trans foundOther
      have absent : other ∉ names := by
        intro member
        obtain ⟨again, foundLater, opensAgain⟩ := opensLater other member
        rw [find_register, if_pos rfl] at foundLater
        cases foundLater
        exact (Source.opens_again opens).mp opensAgain oneShot
      simp [List.count_eq_zero_of_not_mem absent]
    · have foundLater : (catalog.register name source.start.2).find other = .ok held := by
        rw [find_register, if_neg same, foundOther]
      simpa [List.count_cons, Ne.symm same] using once other held foundLater oneShot

theorem Serves.tail (serves : catalog.Serves (name :: names)) : (catalog.register name source.start.2).Serves names := by
  obtain ⟨opensAll, once⟩ := serves
  have others := (List.forall_mem_cons.mp opensAll).2
  -- Of a source that opens once there is no further scan.
  have last (oneShot : source.OneShot) : names.count name = 0 := by
    have twice := once name source found oneShot
    rw [List.count_cons_self] at twice
    omega
  refine ⟨?_, ?_⟩
  · intro other member
    rw [find_register]
    by_cases same : other = name
    · subst same
      rw [if_pos rfl]
      refine ⟨_, rfl, (Source.opens_again opens).mpr ?_⟩
      exact fun oneShot => List.count_eq_zero.mp (last oneShot) member
    · rw [if_neg same]
      exact others other member
  · intro other held foundLater oneShot
    rw [find_register] at foundLater
    by_cases same : other = name
    · subst same
      rw [if_pos rfl] at foundLater
      cases foundLater
      rw [last (source.oneShot_start.mp oneShot)]
      exact Nat.zero_le 1
    · rw [if_neg same] at foundLater
      simpa [List.count_cons, Ne.symm same] using once other held foundLater oneShot

end

theorem startAll_iff (names : List String) (catalog : Catalog) :
    (∃ after, catalog.startAll names = .ok after) ↔ catalog.Serves names := by
  induction names generalizing catalog with
  | nil => simpa [startAll] using ⟨nofun, by simp⟩
  | cons name names ih =>
    constructor
    · rintro ⟨after, starts⟩
      rw [startAll] at starts
      obtain ⟨⟨feed, middle⟩, started, rest⟩ := bind_eq_ok.mp starts
      obtain ⟨source, found, opened, rfl⟩ := start_eq_ok.mp started
      exact .cons found (source.start_iff.mp ⟨feed, opened⟩) ((ih _).mp ⟨after, rest⟩)
    · intro serves
      obtain ⟨source, found, opens⟩ := serves.opens name List.mem_cons_self
      obtain ⟨feed, opened⟩ := source.start_iff.mpr opens
      obtain ⟨after, rest⟩ := (ih _).mpr (serves.tail found opens)
      refine ⟨after, ?_⟩
      rw [startAll]
      exact bind_eq_ok.mpr ⟨(feed, _), start_eq_ok.mpr ⟨source, found, opened, rfl⟩, rest⟩

end Catalog

theorem GroupSpec.key_of_make {key : List Formula} {keyNames fields : List String} {aggregates : List Aggregate}
    {names : List String} {mode : EmitMode} {strategy : ExtremumStrategy} {spec : GroupSpec}
    (made : GroupSpec.make key keyNames fields aggregates names mode strategy = .ok spec) : key = spec.key := by
  unfold GroupSpec.make at made
  split at made
  · split at made <;> cases made
    rfl
  · cases made

namespace Plan

def expressions : Plan → List Expr
  | .scan _ => []
  | .filter predicate _ => [predicate]
  | .map columns _ => columns.map (·.expr)
  | .unionAll _ => []
  | .groupBy key _ _ => key

structure Compiles (settings : Settings) (node : Plan) : Prop where
  resolves : ∀ expr ∈ node.expressions, ∃ formula, expr.resolve = .ok formula
  ends : ∀ key measures source, node = .groupBy key measures source →
    settings.emitMode.checkBounded source.metadata.cardinality = .ok ()

theorem projection_make (columns : List Column) {formulas : List Formula}
    (resolved : Expr.resolveEach .planColumn 0 (columns.map (·.expr)) = .ok formulas) :
    ∃ projection, Projection.make formulas (Column.names columns) = .ok projection := by
  have aligned : formulas.length = (Column.names columns).length := by
    simp [Expr.resolveEach_length resolved, Column.names]
  exact ⟨_, dif_pos aligned⟩

theorem groupSpec_make (settings : Settings) (key : List Expr) (measures : List Measure) {formulas : List Formula}
    (resolved : Expr.resolveEach .planKey 0 key = .ok formulas) :
    ∃ spec, GroupSpec.make formulas (Expr.keyNames key) (measures.map (·.field)) (measures.map (·.aggregate))
      (measures.map (·.outputName)) settings.emitMode settings.extremumStrategy = .ok spec := by
  have aligned : formulas.length = (Expr.keyNames key).length := by
    simp [Expr.resolveEach_length resolved, Expr.keyNames]
  simp [GroupSpec.make, aligned]

variable {settings : Settings} {catalog after : Catalog}

theorem filter_compiles {predicate : Expr} {source : Plan} :
    (∃ op, (filter predicate source).materialize settings catalog = .ok (op, after)) ↔
      (filter predicate source).Compiles settings ∧ ∃ below, source.materialize settings catalog = .ok (below, after) := by
  simp only [materialize_filter]
  constructor
  · rintro ⟨op, below, compiled, formula, resolved, _⟩
    exact ⟨⟨by simpa [expressions] using ⟨formula, resolved⟩, nofun⟩, below, compiled⟩
  · rintro ⟨⟨resolves, _⟩, below, compiled⟩
    obtain ⟨formula, resolved⟩ := resolves predicate (by simp [expressions])
    exact ⟨_, below, compiled, formula, resolved, rfl⟩

theorem map_compiles {columns : List Column} {source : Plan} :
    (∃ op, (map columns source).materialize settings catalog = .ok (op, after)) ↔
      (map columns source).Compiles settings ∧ ∃ below, source.materialize settings catalog = .ok (below, after) := by
  simp only [materialize_map]
  constructor
  · rintro ⟨op, below, compiled, formulas, resolved, _⟩
    exact ⟨⟨(Expr.resolveEach_iff _ _ _).mp ⟨formulas, resolved⟩, nofun⟩, below, compiled⟩
  · rintro ⟨⟨resolves, _⟩, below, compiled⟩
    obtain ⟨formulas, resolved⟩ := (Expr.resolveEach_iff .planColumn 0 _).mpr resolves
    obtain ⟨projection, made⟩ := projection_make columns resolved
    exact ⟨_, below, compiled, formulas, resolved, projection, made, rfl⟩

theorem groupBy_compiles {key : List Expr} {measures : List Measure} {source : Plan} :
    (∃ op, (groupBy key measures source).materialize settings catalog = .ok (op, after)) ↔
      (groupBy key measures source).Compiles settings ∧
        ∃ below, source.materialize settings catalog = .ok (below, after) := by
  simp only [materialize_groupBy]
  constructor
  · rintro ⟨op, ends, below, compiled, formulas, resolved, _⟩
    refine ⟨⟨(Expr.resolveEach_iff _ _ _).mp ⟨formulas, resolved⟩, ?_⟩, below, compiled⟩
    rintro _ _ _ ⟨rfl, rfl, rfl⟩
    exact ends
  · rintro ⟨⟨resolves, ends⟩, below, compiled⟩
    obtain ⟨formulas, resolved⟩ := (Expr.resolveEach_iff .planKey 0 _).mpr resolves
    obtain ⟨spec, made⟩ := groupSpec_make settings key measures resolved
    exact ⟨_, ends key measures source rfl, below, compiled, formulas, resolved, spec, made, rfl⟩

-- Every node has what it needs, and its sources start one after the other.
def Meets (settings : Settings) (nodes : List Plan) (names : List String) (catalog after : Catalog) : Prop :=
  (∀ node ∈ nodes, node.Compiles settings) ∧ catalog.startAll names = .ok after

theorem meets_cons {node : Plan} {nodes : List Plan} {names : List String} :
    Meets settings (node :: nodes) names catalog after ↔
      node.Compiles settings ∧ Meets settings nodes names catalog after := by
  simp [Meets, and_assoc]

theorem meets_append {nodes others : List Plan} {names more : List String} :
    Meets settings (nodes ++ others) (names ++ more) catalog after ↔
      ∃ middle, Meets settings nodes names catalog middle ∧ Meets settings others more middle after := by
  simp only [Meets, List.forall_mem_append, Catalog.startAll_append]
  constructor
  · rintro ⟨⟨first, later⟩, middle, starts, rest⟩
    exact ⟨middle, ⟨first, starts⟩, later, rest⟩
  · rintro ⟨middle, ⟨first, starts⟩, later, rest⟩
    exact ⟨⟨first, later⟩, middle, starts, rest⟩

theorem materializeFrom_meets {plans : List Plan}
    (each : ∀ plan ∈ plans, ∀ {catalog after}, (∃ op, plan.materialize settings catalog = .ok (op, after)) ↔
      Meets settings plan.nodes (plan.scans.map (·.name)) catalog after) (index : Nat) :
    (∃ children, materializeFrom settings index plans catalog = .ok (children, after)) ↔
      Meets settings (plans.flatMap nodes) ((plans.flatMap scans).map (·.name)) catalog after := by
  induction plans generalizing index catalog with
  | nil => simp [materializeFrom, Meets, Catalog.startAll]
  | cons plan plans ih =>
    obtain ⟨first, others⟩ := List.forall_mem_cons.mp each
    simp only [List.flatMap_cons, List.map_append, meets_append, ← first, ← ih others (index + 1), materializeFrom_cons]
    constructor
    · rintro ⟨children, child, middle, compiled, rest, compiledRest, _⟩
      exact ⟨middle, ⟨child, compiled⟩, rest, compiledRest⟩
    · rintro ⟨middle, ⟨child, compiled⟩, rest, compiledRest⟩
      exact ⟨_, child, middle, compiled, rest, compiledRest, rfl⟩

theorem materialize_meets (plan : Plan) :
    (∃ op, plan.materialize settings catalog = .ok (op, after)) ↔
      Meets settings plan.nodes (plan.scans.map (·.name)) catalog after := by
  induction plan using inductionOn generalizing catalog after with
  | scan s =>
    have bare : (scan s).Compiles settings := ⟨by simp [expressions], by simp⟩
    simp [materialize_scan, Meets, nodes, bare, Catalog.startAll, bind_eq_ok]
  | filter predicate source ih => rw [filter_compiles, ih, nodes, scans_filter, meets_cons]
  | map columns source ih => rw [map_compiles, ih, nodes, scans_map, meets_cons]
  | unionAll sources ih =>
    have bare : (unionAll sources).Compiles settings := ⟨by simp [expressions], by simp⟩
    have children := @materializeFrom_meets settings catalog after sources (fun plan member => ih plan member) 0
    rw [nodes, nodesOfAll_eq, scans_unionAll, meets_cons, ← children]
    simp [materialize_unionAll, bare]
  | groupBy key measures source ih => rw [groupBy_compiles, ih, nodes, scans_groupBy, meets_cons]

theorem combine_eq_unbounded {a b : Cardinality} : a.combine b = .unbounded ↔ a = .unbounded ∨ b = .unbounded := by
  cases a <;> cases b <;> decide

theorem cardinalityOfAll_eq_unbounded {seen : Cardinality} {plans : List Plan} :
    cardinalityOfAll seen plans = .unbounded ↔
      seen = .unbounded ∨ ∃ plan ∈ plans, plan.metadata.cardinality = .unbounded := by
  induction plans generalizing seen with
  | nil => simp [cardinalityOfAll]
  | cons plan plans ih => simp [cardinalityOfAll, ih, combine_eq_unbounded, or_assoc]

-- A plan says that it is endless exactly when it scans something endless, if no grouping below hides that.
theorem metadata_unbounded_iff {plan : Plan} (ends : ∀ below, plan.Groups below → below.metadata.cardinality ≠ .unbounded) :
    plan.metadata.cardinality = .unbounded ↔ ∃ s ∈ plan.scans, s.cardinality = .unbounded := by
  induction plan using inductionOn with
  | scan s => simp [metadata]
  | filter predicate source ih => simpa [metadata] using ih (by simpa using ends)
  | map columns source ih => simpa [metadata] using ih (by simpa using ends)
  | unionAll sources ih =>
    have each (source : Plan) (member : source ∈ sources) := ih source member fun below groups =>
      ends below (groups_unionAll.mpr ⟨source, member, groups⟩)
    simp only [metadata, cardinalityOfAll_eq_unbounded, reduceCtorEq, false_or, scans_unionAll, List.mem_flatMap]
    constructor
    · rintro ⟨source, member, endless⟩
      obtain ⟨s, scanned, unbounded⟩ := (each source member).mp endless
      exact ⟨s, ⟨source, member, scanned⟩, unbounded⟩
    · rintro ⟨s, ⟨source, member, scanned⟩, unbounded⟩
      exact ⟨source, member, (each source member).mpr ⟨s, scanned, unbounded⟩⟩
  | groupBy key measures source ih =>
    -- The grouping itself is taken to fit, so nothing below may be endless, and the source says so of all of it.
    have fits := ends source (groups_groupBy.mpr (.inl rfl))
    have below := ih fun below groups => ends below (groups_groupBy.mpr (.inr groups))
    simp only [metadata, reduceCtorEq, scans_groupBy, false_iff]
    rwa [← below]

theorem groups_bounded_iff (plan : Plan) :
    (∀ below, plan.Groups below → below.metadata.cardinality ≠ .unbounded) ↔
      ∀ below, plan.Groups below → ∀ s ∈ below.scans, s.cardinality ≠ .unbounded := by
  induction plan using inductionOn with
  | scan s => simp
  | filter predicate source ih => simpa using ih
  | map columns source ih => simpa using ih
  | unionAll sources ih =>
    simp only [groups_unionAll, forall_exists_index, and_imp]
    constructor
    · intro ends below source member
      exact (ih source member).mp (fun below groups => ends below source member groups) below
    · intro ends below source member
      exact (ih source member).mpr (fun below groups => ends below source member groups) below
  | groupBy key measures source ih =>
    simp only [groups_groupBy, forall_eq_or_imp, ← ih]
    refine and_congr_left fun ends => ?_
    rw [ne_eq, metadata_unbounded_iff ends]
    simp

end Plan

theorem EmitMode.checkBounded_iff {mode : EmitMode} {cardinality : Cardinality} :
    mode.checkBounded cardinality = .ok () ↔ (mode = .final → cardinality ≠ .unbounded) := by
  cases mode <;> cases cardinality <;> simp [EmitMode.checkBounded, EmitMode.requiresBoundedInput, Cardinality.isBounded]

namespace Plan

def calls (plan : Plan) : List (String × Nat) := (plan.nodes.flatMap expressions).flatMap Expr.calls

theorem forall_compiles_iff (settings : Settings) (plan : Plan) :
    (∀ node ∈ plan.nodes, node.Compiles settings) ↔
      (∀ call ∈ plan.calls, Function.Known call) ∧
        (settings.emitMode = .final → ∀ below, plan.Groups below → ∀ s ∈ below.scans, s.cardinality ≠ .unbounded) := by
  rw [calls, List.forall_mem_flatMap, List.forall_mem_flatMap, ← groups_bounded_iff]
  simp only [← Expr.resolve_iff]
  constructor
  · intro compiles
    refine ⟨fun node member => (compiles node member).resolves, ?_⟩
    rintro final below ⟨key, measures, inside⟩
    exact EmitMode.checkBounded_iff.mp ((compiles _ inside).ends key measures below rfl) final
  · rintro ⟨resolves, ends⟩ node member
    refine ⟨resolves node member, ?_⟩
    rintro key measures below rfl
    exact EmitMode.checkBounded_iff.mpr fun final => ends final below ⟨key, measures, member⟩

-- A plan compiles exactly when what it scans can be started, what it calls exists, and no grouping that emits at the end
-- has an endless scan anywhere below it.
theorem materializes_iff (settings : Settings) (catalog : Catalog) (plan : Plan) :
    (∃ op after, plan.materialize settings catalog = .ok (op, after)) ↔
      catalog.Serves (plan.scans.map (·.name)) ∧ (∀ call ∈ plan.calls, Function.Known call) ∧
        (settings.emitMode = .final → ∀ below, plan.Groups below → ∀ s ∈ below.scans, s.cardinality ≠ .unbounded) := by
  rw [exists_comm, ← forall_compiles_iff, ← Catalog.startAll_iff]
  simp only [materialize_meets, Meets, exists_and_left]
  exact and_comm

end Plan

end DeltaQuery
