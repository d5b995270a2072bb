import DeltaQuery.Proofs.Table

namespace DeltaQuery

inductive Call
  | incorporate (value : Value)
  | undo (value : Value)
  | checkIncorporate (value : Value)
  | checkUndo (value : Value)

def Call.change? : Call → Option Change
  | .incorporate value => some (.insert, value)
  | .undo value => some (.retract, value)
  | .checkIncorporate _ => none
  | .checkUndo _ => none

namespace Accumulator

def call (accumulator : Accumulator) : Call → Attempt Cause Accumulator Unit
  | .incorporate value => accumulator.incorporate value
  | .undo value => accumulator.undo value
  | .checkIncorporate value => ⟨accumulator.checkIncorporate value, accumulator⟩
  | .checkUndo value => ⟨accumulator.checkUndo value, accumulator⟩

def afterCalls (accumulator : Accumulator) : List Call → Accumulator
  | [] => accumulator
  | call :: calls => (accumulator.call call).state.afterCalls calls

def replies (accumulator : Accumulator) : List Call → List (Except Cause Unit × Except Cause Value)
  | [] => []
  | call :: calls =>
    let attempt := accumulator.call call
    (attempt.result, attempt.state.current) :: attempt.state.replies calls

-- The changes that were made, of those that were called for.
def accepted (accumulator : Accumulator) : List Call → List Change
  | [] => []
  | call :: calls =>
    let attempt := accumulator.call call
    (match attempt.result with
      | .ok () => call.change?.toList
      | .error _ => []) ++ attempt.state.accepted calls

variable {accumulator : Accumulator} {changes : List Change} {ledger : Ledger} {account : Account} {value : Value}

theorem Tracks.attempt {attempt : Attempt Cause Accumulator Unit} {check : Except Cause Unit} {change : Change}
    (tracks : accumulator.Tracks changes) (follows : attempt.Follows check accumulator)
    (accept : check = .ok () → attempt.state.Tracks (changes ++ [change])) :
    attempt.state.Tracks (changes ++ match attempt.result with
      | .ok () => [change]
      | .error _ => []) := by
  rw [follows.result]
  cases checked : check with
  | ok => exact accept checked
  | error cause => simpa [follows.unchanged cause checked] using tracks

theorem Tracks.call (tracks : accumulator.Tracks changes) (call : Call) :
    (accumulator.call call).state.Tracks
      (changes ++ match (accumulator.call call).result with
        | .ok () => call.change?.toList
        | .error _ => []) := by
  cases call with
  | incorporate value => exact tracks.attempt (incorporate_follows value accumulator) tracks.incorporate
  | undo value => exact tracks.attempt (undo_follows value accumulator) tracks.undo
  | checkIncorporate value =>
    change accumulator.Tracks (changes ++ match accumulator.checkIncorporate value with
      | .ok () => []
      | .error _ => [])
    cases accumulator.checkIncorporate value <;> simpa using tracks
  | checkUndo value =>
    change accumulator.Tracks (changes ++ match accumulator.checkUndo value with
      | .ok () => []
      | .error _ => [])
    cases accumulator.checkUndo value <;> simpa using tracks

theorem Tracks.afterCalls (tracks : accumulator.Tracks changes) (calls : List Call) :
    (accumulator.afterCalls calls).Tracks (changes ++ accumulator.accepted calls) := by
  induction calls generalizing accumulator changes with
  | nil => simpa [Accumulator.afterCalls, accepted] using tracks
  | cons call calls ih =>
    have rest := ih (tracks.call call)
    rw [List.append_assoc] at rest
    exact rest

theorem aggregate_call (accumulator : Accumulator) (call : Call) :
    (accumulator.call call).state.aggregate = accumulator.aggregate := by
  cases call with
  | incorporate value => exact aggregate_incorporate value accumulator
  | undo value => exact aggregate_undo value accumulator
  | checkIncorporate value => rfl
  | checkUndo value => rfl

theorem aggregate_afterCalls (accumulator : Accumulator) (calls : List Call) :
    (accumulator.afterCalls calls).aggregate = accumulator.aggregate := by
  induction calls generalizing accumulator with
  | nil => rfl
  | cons call calls ih => exact (ih (accumulator.call call).state).trans (accumulator.aggregate_call call)

theorem count_valuesOf (kind : EventKind) (value : Value) (changes : List Change) :
    (valuesOf kind changes).count value = changes.count (kind, value) := by
  induction changes with
  | nil => rfl
  | cons change changes ih =>
    obtain ⟨changeKind, changed⟩ := change
    unfold valuesOf at ih ⊢
    by_cases same : changeKind = kind
    · subst same
      simp [List.count_cons, ih]
    · simp [same, ih]

theorem Tracks.count_held (tracks : accumulator.Tracks changes) (value : Value) :
    (Account.ofChanges changes).all.held.count value + changes.count (.retract, value) =
      changes.count (.insert, value) := by
  have balance := tracks.balance.count_eq value
  rwa [List.count_append, count_valuesOf, count_valuesOf] at balance

end Accumulator

-- Why an aggregate does not give back a value that it does not hold. Sums and averages look at the type first.
def Aggregate.strayCause : Aggregate → Value → Cause
  | .avg, value => if Sum.isNumber value then .neverSaw .sum value else .notSummable .undo value
  | .sum, value => if Sum.isNumber value then .neverSaw .sum value else .notSummable .undo value
  | .avgDistinct, value => .neverIncorporated value
  | .countDistinct, value => .neverIncorporated value
  | .sumDistinct, value => .neverIncorporated value
  | .count, value => .neverSaw .count value
  | .first, value => .neverSaw .first value
  | .last, value => .neverSaw .last value
  | .max, value => .neverSaw .max value
  | .min, value => .neverSaw .min value

theorem Aggregate.kind_strayCause (aggregate : Aggregate) (value : Value) :
    (aggregate.strayCause value).kind =
      if (aggregate = .avg ∨ aggregate = .sum) ∧ Sum.isNumber value = false then .evaluation else .retraction := by
  cases aggregate <;> cases number : Sum.isNumber value <;> simp [strayCause, number, Cause.kind]

namespace Accumulator

variable {accumulator : Accumulator} {ledger : Ledger} {account : Account} {value : Value}

theorem Holds.checkUndo_stray (holds : accumulator.Holds ledger) (stray : value ∉ ledger.held) :
    accumulator.checkUndo value = .error (accumulator.aggregate.strayCause value) := by
  have ofSum {running : Sum} (keeps : running.Keeps ledger) : running.checkUndo value =
      .error (if Sum.isNumber value then .neverSaw .sum value else .notSummable .undo value) := by
    have none := (keeps.live.multiplicity_eq_zero_iff value).mpr stray
    cases number : Sum.isNumber value <;> simp [Sum.checkUndo, number, none]
  cases accumulator with
  | avg running => exact ofSum holds
  | sum running => exact ofSum holds
  | count live => exact if_pos ((LiveValues.Holds.multiplicity_eq_zero_iff holds value).mpr stray)
  | arrival order =>
    have absent : ¬ order.copies.contains value = true := fun found =>
      stray ((ArrivalOrder.Holds.contains_iff holds value).mp found)
    refine (if_neg absent).trans ?_
    cases wanted : order.wanted <;> simp [aggregate, wanted, End.aggregate, Aggregate.strayCause]
  | ordered held =>
    have absent : ¬ held.counts.contains value = true := fun found => stray ((CopiesOf.contains_iff holds value).mp found)
    refine (if_neg absent).trans ?_
    cases extreme : held.extreme <;> simp [aggregate, extreme, Extreme.aggregate, Aggregate.strayCause]
  | rescan held =>
    have absent : value ∉ held.values := fun found => stray ((RescanExtremum.Holds.perm holds).mem_iff.mp found)
    refine (if_neg absent).trans ?_
    cases extreme : held.extreme <;> simp [aggregate, extreme, Extreme.aggregate, Aggregate.strayCause]
  | distinct live inner => exact holds.elim

theorem Keeps.checkUndo_stray (keeps : accumulator.Keeps account) (stray : value ∉ account.all.held) :
    accumulator.checkUndo value = .error (accumulator.aggregate.strayCause value) := by
  cases keeps with
  | plain holds => exact holds.checkUndo_stray stray
  | @distinct live inner _ copies holds hasDistinct =>
    have none := (copies.multiplicity_eq_zero_iff value).mpr stray
    have cause : inner.aggregate.distinct.strayCause value = .neverIncorporated value := by
      generalize inner.aggregate = kind at hasDistinct
      cases kind <;> first | rfl | exact absurd rfl hasDistinct
    unfold checkUndo
    rw [none]
    exact congrArg Except.error cause.symm

-- A value that was incorporated as often as it was undone is refused, by the check and by the undo, and the
-- accumulator stays as it was. It is refused as inconsistent, but for what a sum or an average could never hold.
theorem undo_of_stray (strategy : ExtremumStrategy) (kind : Aggregate) (calls : List Call) (value : Value)
    (stray : ((fresh strategy kind).accepted calls).count (.insert, value) =
      ((fresh strategy kind).accepted calls).count (.retract, value)) :
    ((fresh strategy kind).afterCalls calls).checkUndo value = .error (kind.strayCause value) ∧
      ((fresh strategy kind).afterCalls calls).undo value =
        .failed ((fresh strategy kind).afterCalls calls) (kind.strayCause value) ∧
      (kind.strayCause value).kind =
        if (kind = .avg ∨ kind = .sum) ∧ Sum.isNumber value = false then .evaluation else .retraction := by
  have tracks := (tracks_fresh strategy kind).afterCalls calls
  rw [List.nil_append] at tracks
  have aggregate := ((fresh strategy kind).aggregate_afterCalls calls).trans (aggregate_fresh strategy kind)
  generalize (fresh strategy kind).accepted calls = changes at tracks stray
  generalize (fresh strategy kind).afterCalls calls = accumulator at tracks aggregate ⊢
  have held := tracks.count_held value
  have absent : value ∉ (Account.ofChanges changes).all.held := List.count_eq_zero.mp (by omega)
  have check := tracks.keeps.checkUndo_stray absent
  rw [aggregate] at check
  exact ⟨check, (undo_follows value accumulator).refused check, kind.kind_strayCause value⟩

theorem undo_of_stray_float :
    ((fresh .ordered .sum).accepted [.incorporate (.int 1), .undo (.int 2)]).count (.insert, .float (Binary64.ofInt 1)) =
        ((fresh .ordered .sum).accepted [.incorporate (.int 1), .undo (.int 2)]).count (.retract, .float (Binary64.ofInt 1)) ∧
      ((fresh .ordered .sum).afterCalls [.incorporate (.int 1), .undo (.int 2)]).checkUndo (.float (Binary64.ofInt 1)) =
        .error (.neverSaw .sum (.float (Binary64.ofInt 1))) := by
  have stray : ((fresh .ordered .sum).accepted [.incorporate (.int 1), .undo (.int 2)]).count
      (.insert, .float (Binary64.ofInt 1)) =
        ((fresh .ordered .sum).accepted [.incorporate (.int 1), .undo (.int 2)]).count
          (.retract, .float (Binary64.ofInt 1)) := by decide +kernel
  exact ⟨stray, (undo_of_stray .ordered .sum [.incorporate (.int 1), .undo (.int 2)] _ stray).1⟩

-- A text is not held by a sum, and yet undoing it is not refused as inconsistent.
theorem sum_refuses_stray_text_by_type :
    ((fresh .ordered .sum).accepted [.incorporate (.int 1)]).count (.insert, .text "x") =
        ((fresh .ordered .sum).accepted [.incorporate (.int 1)]).count (.retract, .text "x") ∧
      ((fresh .ordered .sum).afterCalls [.incorporate (.int 1)]).checkUndo (.text "x") =
        .error (.notSummable .undo (.text "x")) ∧
      (Cause.notSummable .undo (.text "x")).kind ≠ .retraction := by
  decide +kernel

end Accumulator

end DeltaQuery
