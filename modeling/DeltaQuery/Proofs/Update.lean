import DeltaQuery.Proofs.Accumulator

namespace DeltaQuery

variable {spec : GroupSpec} {kind : EventKind} {value : Value}

namespace Accumulator

theorem current_error {accumulator : Accumulator} {cause : Cause} (failed : accumulator.current = .error cause) :
    ∃ kind, cause = .noValues kind := by
  induction accumulator with
  | avg running =>
    change running.average = .error cause at failed
    unfold Sum.average at failed
    split at failed <;> cases failed
    exact ⟨_, rfl⟩
  | sum running =>
    change running.current = .error cause at failed
    unfold Sum.current at failed
    split at failed
    · cases failed
      exact ⟨_, rfl⟩
    · split at failed <;> cases failed
  | count live => cases failed
  | arrival order =>
    change order.current = .error cause at failed
    unfold ArrivalOrder.current at failed
    split at failed <;> cases failed
    exact ⟨_, rfl⟩
  | ordered held =>
    change held.current = .error cause at failed
    unfold OrderedExtremum.current at failed
    split at failed <;> cases failed
    exact ⟨_, rfl⟩
  | rescan held =>
    change held.current = .error cause at failed
    unfold RescanExtremum.current at failed
    split at failed <;> cases failed
    exact ⟨_, rfl⟩
  | distinct live inner ih => exact ih failed

theorem cell_exists (accumulator : Accumulator) : ∃ value, accumulator.cell = .ok value := by
  unfold cell
  cases answer : accumulator.current with
  | ok value => exact ⟨value, rfl⟩
  | error cause =>
    obtain ⟨kind, rfl⟩ := current_error answer
    exact ⟨.null, rfl⟩

end Accumulator

namespace Group

theorem cellsOf_exists (accumulators : List Accumulator) : ∃ cells, cellsOf accumulators = .ok cells := by
  induction accumulators with
  | nil => exact ⟨[], rfl⟩
  | cons accumulator accumulators ih =>
    obtain ⟨value, cell⟩ := accumulator.cell_exists
    obtain ⟨cells, rest⟩ := ih
    refine ⟨value :: cells, ?_⟩
    unfold cellsOf
    rw [cell, rest]
    rfl

theorem row_exists (spec : GroupSpec) (group : Group) (kind : EventKind) :
    ∃ record, group.row spec kind = .ok record := by
  obtain ⟨cells, found⟩ := cellsOf_exists group.accumulators
  unfold row
  rw [found]
  exact ⟨_, rfl⟩

section

variable (kind : EventKind) (index : Nat) (aggregate : Aggregate) (aggregates : List Aggregate)
variable (accumulator : Accumulator) (accumulators : List Accumulator) (value : Value) (values : List Value)

theorem checkFrom_cons :
    checkFrom kind index (aggregate :: aggregates) (accumulator :: accumulators) (value :: values) =
      match accumulator.check kind value with
      | .error cause => .error ((Failure.of cause).within (.aggregateUpdate aggregate index))
      | .ok () => checkFrom kind (index + 1) aggregates accumulators values := by
  rw [checkFrom]
  cases accumulator.check kind value <;> rfl

theorem changeFrom_cons :
    changeFrom kind index (aggregate :: aggregates) (accumulator :: accumulators) (value :: values) =
      match accumulator.check kind value with
      | .error cause =>
        .failed ((accumulator.change kind value).state :: accumulators)
          ((Failure.of cause).within (.aggregateUpdate aggregate index))
      | .ok () =>
        (changeFrom kind (index + 1) aggregates accumulators values).map ((accumulator.change kind value).state :: ·) := by
  rw [changeFrom, (accumulator.change_follows kind value).result]
  cases accumulator.check kind value <;> rfl

theorem changeFrom_result :
    (changeFrom kind index aggregates accumulators values).result =
      checkFrom kind index aggregates accumulators values := by
  induction aggregates generalizing index accumulators values with
  | nil => rfl
  | cons aggregate aggregates ih =>
    cases accumulators with
    | nil => rfl
    | cons accumulator accumulators =>
      cases values with
      | nil => rfl
      | cons value values =>
        rw [changeFrom_cons, checkFrom_cons]
        cases accumulator.check kind value with
        | error cause => rfl
        | ok => exact ih (index + 1) accumulators values

end

-- Once all accumulators have been asked, none of them can fail to change.
theorem changeFrom_ok {index : Nat} {aggregates : List Aggregate} {accumulators : List Accumulator}
    {values : List Value} (checked : checkFrom kind index aggregates accumulators values = .ok ()) :
    (changeFrom kind index aggregates accumulators values).result = .ok () :=
  (changeFrom_result kind index aggregates accumulators values).trans checked

theorem update_of_checkFrom {group : Group} {values : List Value}
    (alive : (kind.isRetraction && group.live == 0) = false)
    (checked : checkFrom kind 0 spec.aggregates group.accumulators values = .ok ()) :
    group.update spec kind values = .done { group with
      accumulators := (changeFrom kind 0 spec.aggregates group.accumulators values).state
      live := liveAfter group.live kind } () := by
  unfold update
  rw [alive, checked]
  dsimp only
  rw [changeFrom_ok checked]
  rfl

theorem update_cases (spec : GroupSpec) (group : Group) (kind : EventKind) (values : List Value) :
    (∃ failure, group.update spec kind values = .failed group failure ∧
        (kind = .retract ∧ group.live = 0 ∨
          checkFrom kind 0 spec.aggregates group.accumulators values = .error failure)) ∨
      ((kind.isRetraction && group.live == 0) = false ∧
        checkFrom kind 0 spec.aggregates group.accumulators values = .ok () ∧
        group.update spec kind values = .done { group with
          accumulators := (changeFrom kind 0 spec.aggregates group.accumulators values).state
          live := liveAfter group.live kind } ()) := by
  cases dead : kind.isRetraction && group.live == 0 with
  | true =>
    refine .inl ⟨Failure.of (.deadGroup group.key), ?_, .inl ?_⟩
    · unfold update
      rw [if_pos dead]
    · rw [Bool.and_eq_true, beq_iff_eq] at dead
      cases kind with
      | insert => cases dead.1
      | retract => exact ⟨rfl, dead.2⟩
  | false =>
    cases checked : checkFrom kind 0 spec.aggregates group.accumulators values with
    | error failure =>
      refine .inl ⟨failure, ?_, .inr rfl⟩
      unfold update
      rw [dead, checked]
      rfl
    | ok => exact .inr ⟨rfl, rfl, update_of_checkFrom dead checked⟩

end Group

namespace GroupTable

variable {table : GroupTable} {key : List Value} {slot : Nat} {group : Group}

theorem find?_eq_some : table.find? key = some (slot, group) ↔
    table.index[key]? = some slot ∧ table.groups[slot]? = some group := by
  unfold find?
  cases table.index[key]? with
  | none => simp
  | some found =>
    cases entry : table.groups[found]? with
    | none =>
      simp only [Option.bind_eq_bind, Option.bind_some, entry, Option.bind_none, reduceCtorEq, Option.some.injEq,
        false_iff, not_and]
      rintro rfl
      simp [entry]
    | some inside =>
      simp only [Option.bind_eq_bind, Option.bind_some, entry, Option.some.injEq, Prod.mk.injEq]
      constructor
      · rintro ⟨rfl, rfl⟩
        exact ⟨rfl, entry⟩
      · rintro ⟨rfl, same⟩
        exact ⟨rfl, Option.some.inj (entry.symm.trans same)⟩

theorem replace_self (found : table.groups[slot]? = some group) : table.replace slot group = table := by
  obtain ⟨inBounds, rfl⟩ := Array.getElem?_eq_some_iff.mp found
  unfold replace
  rw [Array.setIfInBounds_def, dif_pos inBounds, Array.set_getElem_self]

inductive Routed (spec : GroupSpec) (table : GroupTable) (key : List Value) (kind : EventKind) (values : List Value) :
    Attempt Failure GroupTable Group → Prop
  | unseen (absent : table.find? key = none) (retraction : kind = .retract) :
      Routed spec table key kind values (.failed table (Failure.of (.unseenGroup key)))
  | refused {failure : Failure} {group : Group}
      (home : (∃ slot, table.find? key = some (slot, group)) ∨
        table.find? key = none ∧ kind = .insert ∧ group = .fresh spec key)
      (update : group.update spec kind values = .failed group failure) :
      Routed spec table key kind values (.failed table failure)
  | changed {slot : Nat} {group after : Group} (found : table.find? key = some (slot, group))
      (update : group.update spec kind values = .done after ()) :
      Routed spec table key kind values (.done (table.replace slot after) after)
  | entered {after : Group} (absent : table.find? key = none) (insertion : kind = .insert)
      (update : (Group.fresh spec key).update spec kind values = .done after ()) :
      Routed spec table key kind values (.done (table.enter after) after)

theorem route_cases (spec : GroupSpec) (table : GroupTable) (key : List Value) (kind : EventKind)
    (values : List Value) : Routed spec table key kind values (table.route spec key kind values) := by
  unfold route
  cases found : table.find? key with
  | none =>
    cases kind with
    | retract => exact .unseen found rfl
    | insert =>
      rcases Group.update_cases spec (.fresh spec key) .insert values with
        ⟨failure, update, why⟩ | ⟨alive, checked, update⟩
      · dsimp only
        rw [update]
        exact .refused (.inr ⟨found, rfl, rfl⟩) update
      · dsimp only
        rw [update]
        exact .entered found rfl update
  | some entry =>
    obtain ⟨slot, group⟩ := entry
    rcases Group.update_cases spec group kind values with ⟨failure, update, why⟩ | ⟨alive, checked, update⟩
    · dsimp only
      rw [update]
      have same : table.replace slot group = table := replace_self (find?_eq_some.mp found).2
      have refused := Routed.refused (.inl ⟨slot, found⟩) update
      simpa only [Attempt.failed, Except.map, same] using refused
    · dsimp only
      rw [update]
      exact .changed found update

theorem route_failed {values : List Value} {failure : Failure}
    (rejected : (table.route spec key kind values).result = .error failure) :
    (table.route spec key kind values).state = table := by
  have cases_ := route_cases spec table key kind values
  generalize table.route spec key kind values = attempt at cases_ rejected
  cases cases_ with
  | unseen => rfl
  | refused => rfl
  | changed => cases rejected
  | entered => cases rejected

theorem apply_eq_route {record : Record} {values : List Value} (keyed : spec.evaluateKey record = .ok key)
    (fields : spec.evaluateFields record = .ok values) :
    table.apply spec record = table.route spec key record.kind values := by
  unfold apply
  rw [keyed, fields]

theorem apply_failed {record : Record} {failure : Failure}
    (rejected : (table.apply spec record).result = .error failure) : (table.apply spec record).state = table := by
  cases keyed : spec.evaluateKey record with
  | error other =>
    unfold apply
    rw [keyed]
    rfl
  | ok key =>
    cases fields : spec.evaluateFields record with
    | error other =>
      unfold apply
      rw [keyed, fields]
      rfl
    | ok values =>
      rw [apply_eq_route keyed fields] at rejected ⊢
      exact route_failed rejected

theorem apply_ok {record : Record} (accepted : (table.apply spec record).result = .ok group) :
    ∃ key values, spec.evaluateKey record = .ok key ∧ spec.evaluateFields record = .ok values ∧
      table.apply spec record = table.route spec key record.kind values := by
  cases keyed : spec.evaluateKey record with
  | error other =>
    unfold apply at accepted
    rw [keyed] at accepted
    cases accepted
  | ok key =>
    cases fields : spec.evaluateFields record with
    | error other =>
      unfold apply at accepted
      rw [keyed, fields] at accepted
      cases accepted
    | ok values => exact ⟨key, values, rfl, rfl, apply_eq_route keyed fields⟩

end GroupTable

end DeltaQuery
