import DeltaQuery.Proofs.Calls

namespace DeltaQuery

def Change.call : Change → Call
  | (.insert, value) => .incorporate value
  | (.retract, value) => .undo value

theorem Call.call_of_change? {call : Call} {change : Change} (changes : call.change? = some change) :
    Change.call change = call := by
  cases call <;> cases changes <;> rfl

namespace Accumulator

variable {accumulator last : Accumulator} {changes : List Change} {call : Call} {cause : Cause}

-- An accumulator takes changes one after the other, every one of which it accepts.
inductive Takes : Accumulator → List Change → Accumulator → Prop
  | nothing {accumulator : Accumulator} : Takes accumulator [] accumulator
  | change {accumulator last : Accumulator} {change : Change} {changes : List Change}
      (accepted : (accumulator.call (Change.call change)).result = .ok ())
      (rest : Takes (accumulator.call (Change.call change)).state changes last) :
      Takes accumulator (change :: changes) last

theorem call_of_error (call : Call) (refused : (accumulator.call call).result = .error cause) :
    (accumulator.call call).state = accumulator := by
  cases call with
  | incorporate value =>
    have follows := incorporate_follows value accumulator
    exact follows.unchanged cause (follows.result.symm.trans refused)
  | undo value =>
    have follows := undo_follows value accumulator
    exact follows.unchanged cause (follows.result.symm.trans refused)
  | checkIncorporate value => rfl
  | checkUndo value => rfl

theorem call_of_check (check : call.change? = none) : (accumulator.call call).state = accumulator := by
  cases call with
  | incorporate value => cases check
  | undo value => cases check
  | checkIncorporate value => rfl
  | checkUndo value => rfl

theorem takes_accepted (accumulator : Accumulator) (calls : List Call) :
    accumulator.Takes (accumulator.accepted calls) (accumulator.afterCalls calls) := by
  induction calls generalizing accumulator with
  | nil => exact .nothing
  | cons call calls ih =>
    have rest := ih (accumulator.call call).state
    rw [accepted, afterCalls]
    cases result : (accumulator.call call).result with
    | error cause =>
      rw [call_of_error call result] at rest ⊢
      exact rest
    | ok =>
      cases made : call.change? with
      | none =>
        rw [call_of_check made] at rest ⊢
        exact rest
      | some change =>
        rw [← Call.call_of_change? made] at result rest ⊢
        exact .change result rest

theorem Takes.afterCalls_eq (takes : accumulator.Takes changes last) :
    accumulator.afterCalls (changes.map Change.call) = last := by
  induction takes with
  | nothing => rfl
  | change accepted rest ih => exact ih

theorem Takes.accepted_eq (takes : accumulator.Takes changes last) :
    accumulator.accepted (changes.map Change.call) = changes := by
  induction takes with
  | nothing => rfl
  | @change accumulator last change changes accepted rest ih =>
    have itself : (Change.call change).change? = some change := by
      obtain ⟨kind, value⟩ := change
      cases kind <;> rfl
    rw [List.map_cons, Accumulator.accepted, accepted, itself, ih]
    rfl

-- Whatever an accumulator has been through, a check says how the change would go, and a change that fails leaves all
-- of the accumulator as it was. What has become of it since it was fresh is what the accepted changes make of it.
theorem checks_predict_changes (strategy : ExtremumStrategy) (kind : Aggregate) (calls : List Call) (value : Value) :
    let accumulator := (fresh strategy kind).afterCalls calls
    let changes := (fresh strategy kind).accepted calls
    (accumulator.incorporate value).result = accumulator.checkIncorporate value ∧
      (accumulator.undo value).result = accumulator.checkUndo value ∧
      (∀ cause, (accumulator.incorporate value).result = .error cause →
        (accumulator.incorporate value).state = accumulator) ∧
      (∀ cause, (accumulator.undo value).result = .error cause → (accumulator.undo value).state = accumulator) ∧
      (fresh strategy kind).accepted (changes.map Change.call) = changes ∧
      (fresh strategy kind).afterCalls (changes.map Change.call) = accumulator := by
  intro accumulator changes
  have takes := takes_accepted (fresh strategy kind) calls
  refine ⟨(incorporate_follows value accumulator).result, (undo_follows value accumulator).result, ?_, ?_,
    takes.accepted_eq, takes.afterCalls_eq⟩
  · intro cause refused
    exact call_of_error (.incorporate value) refused
  · intro cause refused
    exact call_of_error (.undo value) refused

-- A distinct sum that is full: one more is refused by the sum inside it, before and after a text was.
theorem checks_predict_changes_fullSum :
    let calls : List Call := [.incorporate (.int Int64.maxValue), .incorporate (.text "x")]
    let full := (fresh .rescan .sumDistinct).afterCalls calls
    full.checkIncorporate (.int 1) = .error (.sumOverflow .incorporate 1 Int64.maxValue) ∧
      (full.incorporate (.int 1)).result = .error (.sumOverflow .incorporate 1 Int64.maxValue) ∧
      (full.incorporate (.int 1)).state = full ∧
      (fresh .rescan .sumDistinct).afterCalls [.incorporate (.int Int64.maxValue)] = full := by
  intro calls full
  obtain ⟨predicted, _, unchanged, _, _, same⟩ := checks_predict_changes .rescan .sumDistinct calls (.int 1)
  have refused : full.checkIncorporate (.int 1) = .error (.sumOverflow .incorporate 1 Int64.maxValue) := by
    decide +kernel
  have accepted : (fresh .rescan .sumDistinct).accepted calls = [(.insert, .int Int64.maxValue)] := by decide +kernel
  rw [accepted] at same
  exact ⟨refused, predicted.trans refused, unchanged _ (predicted.trans refused), same⟩

end Accumulator

end DeltaQuery
