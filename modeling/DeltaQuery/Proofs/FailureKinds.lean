import DeltaQuery.Proofs.Formula
import DeltaQuery.Proofs.WellFormed

namespace DeltaQuery

def FailsIn {α : Type} (kinds : List FailureKind) (result : Except Failure α) : Prop :=
  ∀ failure, result = .error failure → failure.kind ∈ kinds

namespace FailsIn

variable {α β : Type} {kinds : List FailureKind} {result : Except Failure α}

theorem ok (value : α) : FailsIn kinds (.ok value) := nofun

theorem error {failure : Failure} (kind : failure.kind ∈ kinds) : FailsIn kinds (.error failure : Except Failure α) := by
  intro other same
  cases same
  exact kind

theorem mono (fails : FailsIn kinds result) {others : List FailureKind} (more : kinds ⊆ others) : FailsIn others result :=
  fun failure failed => more (fails failure failed)

theorem failing {result : Except Cause α} (kind : ∀ cause, result = .error cause → cause.kind ∈ kinds) :
    FailsIn kinds (DeltaQuery.failing result) := by
  intro failure failed
  obtain ⟨cause, because, same⟩ := failing_kind failed
  rw [same]
  exact kind cause because

theorem around (fails : FailsIn kinds result) (place : Place) : FailsIn kinds (place.around result) := by
  intro failure failed
  obtain ⟨inner, inside, same⟩ := Place.around_kind failed
  rw [same]
  exact fails inner inside

theorem map (fails : FailsIn kinds result) (change : α → β) : FailsIn kinds (result.map change) := by
  cases result with
  | ok value => exact .ok _
  | error failure => exact .error (fails failure rfl)

theorem bind (fails : FailsIn kinds result) {rest : α → Except Failure β}
    (later : ∀ value, result = .ok value → FailsIn kinds (rest value)) : FailsIn kinds (result >>= rest) := by
  cases result with
  | ok value => exact later value rfl
  | error failure => exact .error (fails failure rfl)

end FailsIn

theorem Function.resolve_fails {name : String} {count : Nat} {cause : Cause}
    (failed : Function.resolve name count = .error cause) : cause.kind = .compilation := by
  unfold Function.resolve at failed
  split at failed
  · cases failed
    rfl
  · split at failed <;> cases failed
    rfl

theorem Function.takes_of_resolve {name : String} {count : Nat} {function : Function}
    (resolved : Function.resolve name count = .ok function) : function.takes count = true := by
  unfold Function.resolve at resolved
  split at resolved
  · cases resolved
  · split at resolved <;> cases resolved
    assumption

namespace Expr

theorem resolveEach_fails {place : Nat → Place} {kinds : List FailureKind} {exprs : List Expr}
    (each : ∀ expr ∈ exprs, FailsIn kinds expr.resolve) (index : Nat) : FailsIn kinds (resolveEach place index exprs) := by
  induction exprs generalizing index with
  | nil => exact .ok []
  | cons expr exprs ih =>
    have first := (each expr List.mem_cons_self).around (place index)
    rw [resolveEach]
    split
    · rename_i failure failed
      exact .error (first failure failed)
    · exact (ih (fun expr member => each expr (List.mem_cons_of_mem _ member)) (index + 1)).map _

theorem resolve_fails (expr : Expr) : FailsIn [.compilation] expr.resolve := by
  induction expr using inductionOn with
  | named name =>
    rw [resolve]
    exact .ok _
  | constant value =>
    rw [resolve]
    exact .ok _
  | call name arguments ih =>
    rw [resolve, resolveFrom_eq]
    split
    · rename_i cause failed
      exact .error (by simp [Failure.kind, Failure.of, Function.resolve_fails failed])
    · exact (resolveEach_fails ih 0).map _
  | connect connective operands ih =>
    rw [resolve, resolveFrom_eq]
    exact (resolveEach_fails ih 0).map _

theorem resolveEach_forall {place : Nat → Place} {index : Nat} {exprs : List Expr} {formulas : List Formula}
    {holds : Formula → Prop} (each : ∀ expr ∈ exprs, ∀ formula, expr.resolve = .ok formula → holds formula)
    (resolved : resolveEach place index exprs = .ok formulas) : ∀ formula ∈ formulas, holds formula := by
  induction exprs generalizing index formulas with
  | nil =>
    cases resolved
    exact nofun
  | cons expr exprs ih =>
    obtain ⟨formula, first, others, rest, rfl⟩ := resolveEach_cons.mp resolved
    exact List.forall_mem_cons.mpr ⟨each expr List.mem_cons_self formula first,
      ih (fun expr member => each expr (List.mem_cons_of_mem _ member)) rest⟩

theorem callable_of_resolve {expr : Expr} {formula : Formula} (resolved : expr.resolve = .ok formula) :
    formula.Callable := by
  induction expr using inductionOn generalizing formula with
  | named name =>
    rw [resolve] at resolved
    cases resolved
    trivial
  | constant value =>
    rw [resolve] at resolved
    cases resolved
    trivial
  | call name arguments ih =>
    obtain ⟨function, known, formulas, each, rfl⟩ := resolve_call.mp resolved
    rw [Formula.Callable, Formula.allCallable_iff, resolveEach_length each]
    exact ⟨Function.takes_of_resolve known, resolveEach_forall (fun expr member formula => ih expr member) each⟩
  | connect connective operands ih =>
    obtain ⟨formulas, each, rfl⟩ := resolve_connect.mp resolved
    rw [Formula.Callable, Formula.allCallable_iff]
    exact resolveEach_forall (fun expr member formula => ih expr member) each

theorem callable_of_resolveEach {place : Nat → Place} {index : Nat} {exprs : List Expr} {formulas : List Formula}
    (resolved : resolveEach place index exprs = .ok formulas) : ∀ formula ∈ formulas, formula.Callable :=
  resolveEach_forall (fun _ _ _ => callable_of_resolve) resolved

end Expr

theorem Source.start_fails {source : Source} {cause : Cause} (failed : source.start.1 = .error cause) :
    cause.kind = .compilation := by
  cases source with
  | stream bytes opened =>
    cases opened <;> cases failed
    rfl
  | file path bytes =>
    cases bytes <;> cases failed
    rfl
  | refusing reason =>
    cases failed
    rfl
  | _ => cases failed

theorem Catalog.start_fails (catalog : Catalog) (name : String) : FailsIn [.compilation] (catalog.start name) := by
  unfold start
  refine (FailsIn.failing ?_).bind fun source found => ((FailsIn.failing ?_).around _).bind fun feed opened => .ok _
  · intro cause failed
    unfold find at failed
    split at failed <;> cases failed
    simp [Cause.kind]
  · intro cause failed
    simp [Source.start_fails failed]

namespace Plan

theorem materializeFrom_fails {settings : Settings} {plans : List Plan}
    (each : ∀ plan ∈ plans, ∀ catalog, FailsIn [.compilation] (plan.materialize settings catalog)) (index : Nat)
    (catalog : Catalog) : FailsIn [.compilation] (materializeFrom settings index plans catalog) := by
  induction plans generalizing index catalog with
  | nil => exact .ok _
  | cons plan plans ih =>
    rw [materializeFrom]
    refine ((each plan List.mem_cons_self catalog).around _).bind fun ⟨child, middle⟩ _ => ?_
    exact (ih (fun plan member => each plan (List.mem_cons_of_mem _ member)) (index + 1) middle).bind fun _ _ => .ok _

theorem materialize_fails (settings : Settings) (plan : Plan) (catalog : Catalog) :
    FailsIn [.compilation] (plan.materialize settings catalog) := by
  have resolves {place : Nat → Place} (exprs : List Expr) : FailsIn [.compilation] (Expr.resolveEach place 0 exprs) :=
    Expr.resolveEach_fails (fun expr _ => expr.resolve_fails) 0
  induction plan using inductionOn generalizing catalog with
  | scan s =>
    rw [materialize]
    exact (catalog.start_fails s.name).bind fun _ _ => .ok _
  | filter predicate source ih =>
    rw [materialize]
    refine ((ih catalog).around _).bind fun ⟨below, middle⟩ _ => ?_
    exact (predicate.resolve_fails.around _).bind fun _ _ => .ok _
  | map columns source ih =>
    rw [materialize]
    refine ((ih catalog).around _).bind fun ⟨below, middle⟩ _ => (resolves _).bind fun formulas resolved => ?_
    obtain ⟨projection, made⟩ := projection_make columns resolved
    rw [made]
    exact .ok _
  | unionAll sources ih =>
    rw [materialize]
    exact (materializeFrom_fails ih 0 catalog).bind fun _ _ => .ok _
  | groupBy key measures source ih =>
    rw [materialize]
    refine (FailsIn.failing ?_).bind fun _ _ => ((ih catalog).around _).bind fun ⟨below, middle⟩ _ => ?_
    · intro cause failed
      unfold EmitMode.checkBounded at failed
      split at failed <;> cases failed
      simp [Cause.kind]
    · refine (resolves _).bind fun formulas resolved => ?_
      obtain ⟨spec, made⟩ := groupSpec_make settings key measures resolved
      rw [made]
      exact .ok _

theorem compile_fails (environment : Environment) (plan : Plan) : FailsIn [.compilation] (plan.compile environment) :=
  (materialize_fails environment.settings plan environment.sources).around _

end Plan

end DeltaQuery
