import DeltaQuery.Group
import DeltaQuery.Proofs.Arrival
import DeltaQuery.Proofs.Extremum
import DeltaQuery.Proofs.Sum

namespace DeltaQuery

def Aggregate.distinct : Aggregate → Aggregate
  | .avg => .avgDistinct
  | .count => .countDistinct
  | .sum => .sumDistinct
  | other => other

namespace Accumulator

variable {value : Value} {accumulator : Accumulator}

theorem incorporate_follows (value : Value) (accumulator : Accumulator) :
    (accumulator.incorporate value).Follows (accumulator.checkIncorporate value) accumulator := by
  induction accumulator with
  | avg running => exact (running.incorporate_follows value).map avg
  | sum running => exact (running.incorporate_follows value).map sum
  | distinct live inner ih =>
    unfold incorporate checkIncorporate
    split
    · exact ih.settle (distinct live) (distinct (live.insert value))
    · exact Attempt.follows_done _ _ ()
  | _ => exact Attempt.follows_done _ _ ()

theorem undo_follows (value : Value) (accumulator : Accumulator) :
    (accumulator.undo value).Follows (accumulator.checkUndo value) accumulator := by
  induction accumulator with
  | avg running => exact (running.undo_follows value).map avg
  | sum running => exact (running.undo_follows value).map sum
  | count live =>
    unfold undo checkUndo
    split
    · exact Attempt.follows_failed _ _
    · exact Attempt.follows_done _ _ ()
  | arrival order => exact (order.undo_follows value).map arrival
  | ordered held => exact (held.undo_follows value).map ordered
  | rescan held => exact (held.undo_follows value).map rescan
  | distinct live inner ih =>
    unfold undo
    cases check : checkUndo value (.distinct live inner) with
    | error cause => exact Attempt.follows_failed _ cause
    | ok =>
      dsimp only
      split
      · -- The last copy is asked of the accumulator inside, which then accepts it.
        rename_i last
        unfold checkUndo at check
        rw [last] at check
        exact check ▸ ih.settle (distinct live) (distinct (live.erase value))
      · exact Attempt.follows_done _ _ ()

section

variable {live : LiveValues} {inner : Accumulator}

-- What is inside sees the first copy come and the last one go.
theorem incorporate_new (absent : live.multiplicity value = 0) (accepted : inner.checkIncorporate value = .ok ()) :
    ((distinct live inner).incorporate value).state = .distinct (live.insert value) (inner.incorporate value).state := by
  rw [incorporate, if_pos absent]
  exact Attempt.settle_state_of_ok ((incorporate_follows value inner).ok accepted) _ _

theorem incorporate_again (held : live.multiplicity value ≠ 0) :
    ((distinct live inner).incorporate value).state = .distinct (live.insert value) inner := by
  rw [incorporate, if_neg held]
  rfl

theorem multiplicity_of_checkUndo (accepted : (distinct live inner).checkUndo value = .ok ()) :
    live.multiplicity value ≠ 0 := by
  intro none
  rw [checkUndo, none] at accepted
  cases accepted

theorem checkUndo_last (last : live.multiplicity value = 1) :
    (distinct live inner).checkUndo value = inner.checkUndo value := by
  rw [checkUndo, last]
  rfl

theorem checkUndo_copy (more : 1 < live.multiplicity value) : (distinct live inner).checkUndo value = .ok () := by
  obtain ⟨copies, several⟩ := Nat.exists_eq_add_of_lt more
  rw [checkUndo, several, Nat.add_comm 1 copies]
  rfl

theorem undo_last (last : live.multiplicity value = 1) (accepted : inner.checkUndo value = .ok ()) :
    ((distinct live inner).undo value).state = .distinct (live.erase value) (inner.undo value).state := by
  rw [undo, (checkUndo_last last).trans accepted]
  dsimp only
  rw [if_pos last]
  exact Attempt.settle_state_of_ok ((undo_follows value inner).ok accepted) _ _

theorem undo_copy (more : 1 < live.multiplicity value) :
    ((distinct live inner).undo value).state = .distinct (live.erase value) inner := by
  rw [undo, checkUndo_copy more]
  dsimp only
  rw [if_neg (Nat.ne_of_gt more)]
  rfl

end

theorem change_follows (kind : EventKind) (value : Value) (accumulator : Accumulator) :
    (accumulator.change kind value).Follows (accumulator.check kind value) accumulator := by
  unfold change check
  split
  · exact Attempt.follows_done _ _ ()
  · cases kind with
    | insert => exact incorporate_follows value accumulator
    | retract => exact undo_follows value accumulator

def aggregate : Accumulator → Aggregate
  | .avg _ => .avg
  | .count _ => .count
  | .sum _ => .sum
  | .arrival order => order.wanted.aggregate
  | .ordered held => held.extreme.aggregate
  | .rescan held => held.extreme.aggregate
  | .distinct _ inner => inner.aggregate.distinct

theorem aggregate_fresh (strategy : ExtremumStrategy) (kind : Aggregate) : (fresh strategy kind).aggregate = kind := by
  cases kind <;> cases strategy <;> rfl

theorem aggregate_incorporate (value : Value) (accumulator : Accumulator) :
    (accumulator.incorporate value).state.aggregate = accumulator.aggregate := by
  induction accumulator with
  | distinct live inner ih =>
    unfold incorporate
    split
    · unfold Attempt.settle
      cases (inner.incorporate value).result <;> exact congrArg Aggregate.distinct ih
    · rfl
  | _ => rfl

theorem aggregate_undo (value : Value) (accumulator : Accumulator) :
    (accumulator.undo value).state.aggregate = accumulator.aggregate := by
  induction accumulator with
  | count live =>
    unfold undo
    split <;> rfl
  | arrival order => exact congrArg End.aggregate (order.wanted_undo value)
  | ordered held => exact congrArg Extreme.aggregate (held.extreme_undo value)
  | rescan held => exact congrArg Extreme.aggregate (held.extreme_undo value)
  | distinct live inner ih =>
    unfold undo
    cases checkUndo value (.distinct live inner) with
    | error => rfl
    | ok =>
      dsimp only
      split
      · unfold Attempt.settle
        cases (inner.undo value).result <;> exact congrArg Aggregate.distinct ih
      · rfl
  | _ => rfl

theorem aggregate_change (kind : EventKind) (value : Value) (accumulator : Accumulator) :
    (accumulator.change kind value).state.aggregate = accumulator.aggregate := by
  unfold change
  split
  · rfl
  · cases kind with
    | insert => exact aggregate_incorporate value accumulator
    | retract => exact aggregate_undo value accumulator

end Accumulator

end DeltaQuery
