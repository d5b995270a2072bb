import DeltaQuery.Proofs.FailureKinds
import Mathlib.Data.List.Forall2

namespace DeltaQuery

namespace Formula

mutual

-- The functions that a formula calls, each with the number of its arguments there, which evaluation trusts.
def calls : Formula → List (Function × Nat)
  | .variable _ => []
  | .constant _ => []
  | .call function arguments => (function, arguments.length) :: callsOfAll arguments
  | .connect _ operands => callsOfAll operands

def callsOfAll : List Formula → List (Function × Nat)
  | [] => []
  | formula :: formulas => calls formula ++ callsOfAll formulas

end

mutual

theorem callable_iff : (formula : Formula) → formula.Callable ↔ ∀ call ∈ formula.calls, call.1.takes call.2 = true
  | .variable _ => by simp [Callable, calls]
  | .constant _ => by simp [Callable, calls]
  | .call function arguments => by
    rw [Callable, calls, List.forall_mem_cons, allCallable_iff_calls arguments]
  | .connect _ operands => by rw [Callable, calls, allCallable_iff_calls operands]

theorem allCallable_iff_calls : (formulas : List Formula) →
    (AllCallable formulas ↔ ∀ call ∈ callsOfAll formulas, call.1.takes call.2 = true)
  | [] => by simp [AllCallable, callsOfAll]
  | formula :: formulas => by
    rw [AllCallable, callsOfAll, List.forall_mem_append, callable_iff formula, allCallable_iff_calls formulas]

end

theorem Callable.evaluates {formula : Formula} (callable : formula.Callable) (record : Record) :
    (∃ value, formula.evaluate record = .ok value) ∨
      ∃ cause, formula.evaluate record = .error cause ∧ cause.kind = .evaluation := by
  cases evaluated : formula.evaluate record with
  | ok value => exact .inl ⟨value, rfl⟩
  | error cause =>
    rcases evaluate_fails formula evaluated with kind | ⟨_, lacks⟩
    · exact .inr ⟨cause, rfl, kind⟩
    · exact absurd callable lacks

end Formula

structure Function.Resolved (named : String × Nat) (call : Function × Nat) : Prop where
  function : Function.named? named.1 = some call.1
  count : named.2 = call.2

theorem Function.named_of_resolve {name : String} {count : Nat} {function : Function}
    (resolved : Function.resolve name count = .ok function) : Function.named? name = some function := by
  unfold Function.resolve at resolved
  split at resolved
  · cases resolved
  · split at resolved <;> cases resolved
    assumption

namespace Expr

theorem callsOfAll_of_resolveEach {place : Nat → Place} {index : Nat} {exprs : List Expr} {formulas : List Formula}
    (each : ∀ expr ∈ exprs, ∀ formula, expr.resolve = .ok formula →
      List.Forall₂ Function.Resolved expr.calls formula.calls)
    (resolved : resolveEach place index exprs = .ok formulas) :
    List.Forall₂ Function.Resolved (callsOfAll exprs) (Formula.callsOfAll formulas) := by
  induction exprs generalizing index formulas with
  | nil =>
    cases resolved
    exact .nil
  | cons expr exprs ih =>
    obtain ⟨formula, first, others, rest, rfl⟩ := resolveEach_cons.mp resolved
    rw [callsOfAll, Formula.callsOfAll]
    have later := ih (fun other member => each other (List.mem_cons_of_mem _ member)) rest
    exact List.rel_append (each expr List.mem_cons_self formula first) later

theorem calls_of_resolve {expr : Expr} {formula : Formula} (resolved : expr.resolve = .ok formula) :
    List.Forall₂ Function.Resolved expr.calls formula.calls := by
  induction expr using inductionOn generalizing formula with
  | named name =>
    rw [resolve] at resolved
    cases resolved
    exact .nil
  | constant value =>
    rw [resolve] at resolved
    cases resolved
    exact .nil
  | call name arguments ih =>
    obtain ⟨function, known, formulas, each, rfl⟩ := resolve_call.mp resolved
    rw [calls, Formula.calls]
    have called : Function.Resolved (name, arguments.length) (function, formulas.length) :=
      ⟨Function.named_of_resolve known, (resolveEach_length each).symm⟩
    exact .cons called (callsOfAll_of_resolveEach (fun argument member formula => ih argument member) each)
  | connect connective operands ih =>
    obtain ⟨formulas, each, rfl⟩ := resolve_connect.mp resolved
    rw [calls, Formula.calls]
    exact callsOfAll_of_resolveEach (fun operand member formula => ih operand member) each

-- The functions in a formula that has been resolved are those named in the expression, each with as many arguments as it
-- takes. So on no record does one lack an argument, and no comparison of numbers is without them: there is a value, or a
-- failure of evaluation.
theorem resolved_never_crashes (expr : Expr) (formula : Formula) (resolved : expr.resolve = .ok formula) :
    List.Forall₂ Function.Resolved expr.calls formula.calls ∧
      (∀ call ∈ formula.calls, call.1.takes call.2 = true) ∧
      ∀ record, (∃ value, formula.evaluate record = .ok value) ∨
        ∃ cause, formula.evaluate record = .error cause ∧ cause.kind = .evaluation := by
  have callable := callable_of_resolve resolved
  exact ⟨calls_of_resolve resolved, formula.callable_iff.mp callable, callable.evaluates⟩

-- A call inside a call inside a connective, with a function of any number of arguments.
theorem resolved_never_crashes_nested :
    let expr : Expr := .connect .or [.call "NOT" [.variable "done"],
      .call "<" [.call "coalesce" [.variable "n", .constant .null, .constant (.int 0)], .variable "limit"]]
    let formula : Formula := .connect .or [.call .not [.variable "done"],
      .call (.compare .lt) [.call .coalesce [.variable "n", .constant .null, .constant (.int 0)], .variable "limit"]]
    expr.resolve = .ok formula ∧ formula.calls = [(.not, 1), (.compare .lt, 2), (.coalesce, 3)] ∧
      ∀ record, (∃ value, formula.evaluate record = .ok value) ∨
        ∃ cause, formula.evaluate record = .error cause ∧ cause.kind = .evaluation := by
  intro expr formula
  have resolved : expr.resolve = .ok formula := by rfl
  exact ⟨resolved, rfl, (resolved_never_crashes expr formula resolved).2.2⟩

end Expr

end DeltaQuery
