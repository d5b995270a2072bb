import DeltaQuery.Proofs.Accumulator
import DeltaQuery.Proofs.Rounding

namespace DeltaQuery

namespace Accumulator

variable {value : Value} {accumulator : Accumulator} {ledger : Ledger} {account : Account}

-- An accumulator of plain values holds those of a ledger.
def Holds : Accumulator → Ledger → Prop
  | .avg running, ledger => running.Keeps ledger
  | .sum running, ledger => running.Keeps ledger
  | .count live, ledger => live.Holds ledger.held
  | .arrival order, ledger => order.Holds ledger.held
  | .ordered held, ledger => CopiesOf held.counts ledger.held
  | .rescan held, ledger => held.Holds ledger.held
  | .distinct .., _ => False

-- A distinct accumulator counts all copies and passes on every value once. What is inside has a distinct form,
-- so that it does not matter in which order the values came.
inductive Keeps : Accumulator → Account → Prop
  | plain {accumulator : Accumulator} {account : Account} (holds : accumulator.Holds account.all) :
      Keeps accumulator account
  | distinct {live : LiveValues} {inner : Accumulator} {account : Account} (copies : live.Holds account.all.held)
      (holds : inner.Holds account.once) (hasDistinct : inner.aggregate.distinct ≠ inner.aggregate) :
      Keeps (.distinct live inner) account

theorem keeps_fresh (strategy : ExtremumStrategy) (kind : Aggregate) : (fresh strategy kind).Keeps {} := by
  have extremum (extreme : Extreme) : (extremum extreme strategy).Keeps {} := by
    cases strategy with
    | ordered => exact .plain CopiesOf.empty
    | rescan => exact .plain (RescanExtremum.holds_empty extreme)
  cases kind with
  | avg => exact .plain Sum.keeps_empty
  | sum => exact .plain Sum.keeps_empty
  | count => exact .plain LiveValues.holds_empty
  | first => exact .plain (ArrivalOrder.holds_empty .first)
  | last => exact .plain (ArrivalOrder.holds_empty .last)
  | max => exact extremum .max
  | min => exact extremum .min
  | avgDistinct => exact .distinct LiveValues.holds_empty Sum.keeps_empty (by decide)
  | countDistinct => exact .distinct LiveValues.holds_empty LiveValues.holds_empty (by decide)
  | sumDistinct => exact .distinct LiveValues.holds_empty Sum.keeps_empty (by decide)

theorem Holds.incorporate (holds : accumulator.Holds ledger) (accepted : accumulator.checkIncorporate value = .ok ()) :
    (accumulator.incorporate value).state.Holds (ledger.take (.insert, value)) := by
  have ofSum {running : Sum} (keeps : running.Keeps ledger) (accepted : running.checkIncorporate value = .ok ()) :
      (running.incorporate value).state.Keeps (ledger.take (.insert, value)) := by
    rw [Sum.incorporate_ok accepted]
    exact keeps.plus accepted
  cases accumulator with
  | avg running => exact ofSum holds accepted
  | sum running => exact ofSum holds accepted
  | count live => exact LiveValues.Holds.insert holds value
  | arrival order => exact ArrivalOrder.Holds.incorporate holds value
  | ordered held => exact OrderedExtremum.incorporate_holds holds value
  | rescan held => exact RescanExtremum.Holds.incorporate holds value
  | distinct live inner => exact holds.elim

theorem Keeps.incorporate (keeps : accumulator.Keeps account) (accepted : accumulator.checkIncorporate value = .ok ()) :
    (accumulator.incorporate value).state.Keeps (account.take (.insert, value)) := by
  cases keeps with
  | plain holds => exact .plain (holds.incorporate accepted)
  | @distinct live inner account copies holds hasDistinct =>
    have counted := copies.multiplicity value
    by_cases absent : live.multiplicity value = 0
    · have passes : account.passes (.insert, value) = true := beq_iff_eq.mpr (counted.symm.trans absent)
      rw [checkIncorporate, if_pos absent] at accepted
      rw [incorporate_new absent accepted]
      refine .distinct (copies.insert value) ?_ ?_
      · simp only [Account.take, passes, if_true]
        exact holds.incorporate accepted
      · rwa [aggregate_incorporate]
    · have passes : account.passes (.insert, value) = false := beq_false_of_ne (counted ▸ absent)
      rw [incorporate_again absent]
      refine .distinct (copies.insert value) ?_ hasDistinct
      simp only [Account.take, passes, Bool.false_eq_true, if_false]
      exact holds

theorem mem_of_multiplicity {live : LiveValues} {values : List Value} (copies : live.Holds values)
    (present : live.multiplicity value ≠ 0) : value ∈ values := by
  by_contra absent
  exact present ((copies.multiplicity_eq_zero_iff value).mpr absent)

theorem Holds.undo (holds : accumulator.Holds ledger) (accepted : accumulator.checkUndo value = .ok ()) :
    value ∈ ledger.held ∧ (accumulator.undo value).state.Holds (ledger.take (.retract, value)) := by
  have ofSum {running : Sum} (keeps : running.Keeps ledger) (accepted : running.checkUndo value = .ok ()) :
      value ∈ ledger.held ∧ (running.undo value).state.Keeps (ledger.take (.retract, value)) := by
    rw [Sum.undo_ok accepted]
    exact keeps.minus accepted
  cases accumulator with
  | avg running => exact ofSum holds accepted
  | sum running => exact ofSum holds accepted
  | count live =>
    unfold checkUndo at accepted
    unfold Accumulator.undo
    split at accepted
    · cases accepted
    · rename_i present
      rw [if_neg present]
      exact ⟨mem_of_multiplicity holds present, LiveValues.Holds.erase holds value⟩
  | arrival order => exact ArrivalOrder.Holds.undo holds accepted
  | ordered held => exact OrderedExtremum.undo_holds holds accepted
  | rescan held => exact RescanExtremum.Holds.undo holds accepted
  | distinct live inner => exact holds.elim

theorem Keeps.undo (keeps : accumulator.Keeps account) (accepted : accumulator.checkUndo value = .ok ()) :
    value ∈ account.all.held ∧ (accumulator.undo value).state.Keeps (account.take (.retract, value)) := by
  cases keeps with
  | plain holds =>
    obtain ⟨held, holds⟩ := holds.undo accepted
    exact ⟨held, .plain holds⟩
  | @distinct live inner account copies holds hasDistinct =>
    have counted := copies.multiplicity value
    by_cases last : live.multiplicity value = 1
    · have passes : account.passes (.retract, value) = true := beq_iff_eq.mpr (counted.symm.trans last)
      rw [checkUndo_last last] at accepted
      rw [undo_last last accepted]
      refine ⟨mem_of_multiplicity copies (by omega), .distinct (copies.erase value) ?_ ?_⟩
      · simp only [Account.take, passes, if_true]
        exact (holds.undo accepted).2
      · rwa [aggregate_undo]
    · have passes : account.passes (.retract, value) = false := beq_false_of_ne (counted ▸ last)
      have present := multiplicity_of_checkUndo accepted
      rw [undo_copy (by omega)]
      refine ⟨mem_of_multiplicity copies present, .distinct (copies.erase value) ?_ hasDistinct⟩
      simp only [Account.take, passes, Bool.false_eq_true, if_false]
      exact holds

theorem checkIncorporate_kind {cause : Cause} (refused : accumulator.checkIncorporate value = .error cause) :
    cause.kind = .evaluation := by
  have ofSum {running : Sum} (refused : running.checkIncorporate value = .error cause) : cause.kind = .evaluation := by
    unfold Sum.checkIncorporate at refused
    split at refused
    · split at refused <;> cases refused
      rfl
    · cases refused
    · cases refused
      rfl
  induction accumulator with
  | avg running => exact ofSum refused
  | sum running => exact ofSum refused
  | distinct live inner ih =>
    unfold checkIncorporate at refused
    split at refused
    · exact ih refused
    · cases refused
  | _ => cases refused

theorem Holds.checkUndo_kind (holds : accumulator.Holds ledger) (held : value ∈ ledger.held) {cause : Cause}
    (refused : accumulator.checkUndo value = .error cause) : cause.kind = .evaluation := by
  cases accumulator with
  | avg running => exact Sum.Keeps.checkUndo_kind holds held refused
  | sum running => exact Sum.Keeps.checkUndo_kind holds held refused
  | count live =>
    unfold checkUndo at refused
    split at refused
    · rename_i absent
      exact absurd held ((LiveValues.Holds.multiplicity_eq_zero_iff holds value).mp absent)
    · cases refused
  | arrival order => cases (ArrivalOrder.Holds.checkUndo_of_mem holds held).symm.trans refused
  | ordered counts => cases (OrderedExtremum.checkUndo_of_mem holds held).symm.trans refused
  | rescan values => cases (RescanExtremum.Holds.checkUndo holds held).symm.trans refused
  | distinct live inner => exact holds.elim

-- A value that is held is refused for what would remain, never as one that is not there.
theorem Keeps.checkUndo_kind (keeps : accumulator.Keeps account) (sound : account.Sound)
    (held : value ∈ account.all.held) {cause : Cause} (refused : accumulator.checkUndo value = .error cause) :
    cause.kind = .evaluation := by
  cases keeps with
  | plain holds => exact holds.checkUndo_kind held refused
  | distinct copies holds hasDistinct =>
    unfold checkUndo at refused
    split at refused
    · rename_i absent
      exact absurd held ((copies.multiplicity_eq_zero_iff value).mp absent)
    · exact holds.checkUndo_kind ((sound.member value).mpr held) refused
    · cases refused

theorem cell_of_ok (answered : accumulator.current = .ok value) : accumulator.cell = .ok value := by
  unfold cell
  rw [answered]

theorem cell_of_noValues {kind : Aggregate} (nothing : accumulator.current = .error (.noValues kind)) :
    accumulator.cell = .ok .null := by
  unfold cell
  rw [nothing]
  rfl

theorem cell_of_found {kind : Aggregate} {found : Option Value}
    (current : accumulator.current = found.elim (.error (.noValues kind)) .ok) :
    accumulator.cell = .ok (found.getD .null) := by
  cases found with
  | some best => exact cell_of_ok current
  | none => exact cell_of_noValues current

theorem cell_sum {running : Sum} (keeps : running.Keeps ledger) :
    ∃ value, (sum running).cell = .ok value ∧ Aggregate.sumOf ledger.floats ledger.held = some value := by
  have current := keeps.current
  unfold Aggregate.sumOf
  split at current
  · rename_i nothing
    exact ⟨.null, cell_of_noValues current, if_pos nothing⟩
  · rename_i some_
    rw [if_neg some_]
    split at current
    · rename_i floats
      exact ⟨_, cell_of_ok current, if_pos floats⟩
    · rename_i integers
      refine ⟨_, cell_of_ok current, ?_⟩
      rw [if_neg integers, ← keeps.integers, integer?_toInt]
      rfl

theorem cell_avg {running : Sum} (keeps : running.Keeps ledger) (settled : ledger.Settled) :
    ∃ value, (avg running).cell = .ok value ∧ Aggregate.averageOf ledger.floats ledger.held = some value := by
  have current := keeps.average
  unfold Aggregate.averageOf
  split at current
  · rename_i nothing
    exact ⟨.null, cell_of_noValues current, if_pos nothing⟩
  · rename_i some_
    refine ⟨_, cell_of_ok current, ?_⟩
    rw [if_neg some_]
    dsimp only
    split
    · rfl
    · rename_i integers
      rw [settled (by simpa using integers), Binary64.ofInt_add_zero]

theorem Holds.cell (holds : accumulator.Holds ledger) (settled : ledger.Settled) (once : Ledger) :
    ∃ value, accumulator.cell = .ok value ∧
      Aggregate.recomputed ⟨ledger, once⟩ accumulator.aggregate = some value := by
  cases accumulator with
  | avg running => exact cell_avg holds settled
  | sum running => exact cell_sum holds
  | count live =>
    refine ⟨_, rfl, ?_⟩
    change some (Aggregate.countOf ledger.held) = some (.int (Int64.ofNat live.size))
    rw [LiveValues.Holds.size holds]
    rfl
  | arrival order =>
    have current : (arrival order).current =
        (ArrivalOrder.atEnd order.wanted ledger.held).elim (.error (.noValues order.wanted.aggregate)) .ok := by
      change order.current = _
      rw [ArrivalOrder.Holds.current holds]
      cases ArrivalOrder.atEnd order.wanted ledger.held <;> rfl
    refine ⟨_, cell_of_found current, ?_⟩
    change Aggregate.recomputed ⟨ledger, once⟩ order.wanted.aggregate = _
    cases order.wanted <;> rfl
  | ordered held =>
    have best := OrderedExtremum.best?_eq holds
    have current : (ordered held).current =
        (held.extreme.atEnd (Value.sort ledger.held)).elim (.error (.noValues held.extreme.aggregate)) .ok := by
      change held.current = _
      unfold OrderedExtremum.current
      rw [best]
      cases held.extreme.atEnd (Value.sort ledger.held) <;> rfl
    refine ⟨_, cell_of_found current, ?_⟩
    change Aggregate.recomputed ⟨ledger, once⟩ held.extreme.aggregate = _
    cases held.extreme <;> rfl
  | rescan held =>
    have current : (rescan held).current =
        (held.extreme.atEnd (Value.sort ledger.held)).elim (.error (.noValues held.extreme.aggregate)) .ok := by
      change held.current = _
      unfold RescanExtremum.current
      rw [RescanExtremum.Holds.best holds]
      cases held.extreme.atEnd (Value.sort ledger.held) <;> rfl
    refine ⟨_, cell_of_found current, ?_⟩
    change Aggregate.recomputed ⟨ledger, once⟩ held.extreme.aggregate = _
    cases held.extreme <;> rfl
  | distinct live inner => exact holds.elim

end Accumulator

theorem Aggregate.recomputed_distinct {account : Account} (sound : account.Sound) {kind : Aggregate}
    (hasDistinct : kind.distinct ≠ kind) :
    recomputed account kind.distinct = recomputed ⟨account.once, account.once⟩ kind := by
  have perm := sound.perm.symm
  cases kind with
  | avg => exact averageOf_perm perm _
  | count => exact congrArg some (countOf_perm perm)
  | sum => exact sumOf_perm perm _
  | _ => exact absurd rfl hasDistinct

namespace Accumulator

variable {accumulator : Accumulator} {account : Account}

theorem Keeps.cell (keeps : accumulator.Keeps account) (sound : account.Sound) :
    ∃ value, accumulator.cell = .ok value ∧ Aggregate.recomputed account accumulator.aggregate = some value := by
  cases keeps with
  | plain holds => exact holds.cell sound.allSettled account.once
  | @distinct live inner account copies holds hasDistinct =>
    obtain ⟨value, cell, recomputed⟩ := holds.cell sound.onceSettled account.once
    refine ⟨value, cell, ?_⟩
    rw [← recomputed]
    exact Aggregate.recomputed_distinct sound hasDistinct

end Accumulator

end DeltaQuery
