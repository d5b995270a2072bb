import DeltaQuery.Proofs.Calls

namespace DeltaQuery

-- The answer of an accumulator that holds what a ledger does.
def Aggregate.answer (ledger : Ledger) : Aggregate → Except Cause Value
  | .avg | .avgDistinct =>
    if ledger.held.isEmpty then .error (.noValues .avg)
    else .ok (.float ((Binary64.ofInt (integerTotal ledger.held) + ledger.floats) / Binary64.ofInt ledger.held.length))
  | .sum | .sumDistinct =>
    if ledger.held.isEmpty then .error (.noValues .sum)
    else if ledger.held.any Value.isFloat then
      .ok (.float (Binary64.ofInt (integerTotal ledger.held) + ledger.floats))
    else .ok (.int (Int64.ofInt (integerTotal ledger.held)))
  | .count | .countDistinct => .ok (countOf ledger.held)
  | .first => ledger.held.head?.elim (.error (.noValues .first)) .ok
  | .last => ledger.held.getLast?.elim (.error (.noValues .last)) .ok
  | .max => (Value.sort ledger.held).getLast?.elim (.error (.noValues .max)) .ok
  | .min => (Value.sort ledger.held).head?.elim (.error (.noValues .min)) .ok

theorem Value.sort_congr {left right : List Value} (perm : left.Perm right) : sort left = sort right :=
  eq_sort ((sort_perm left).trans perm) (sort_pairwise left)

-- The order of arrival matters to the first and the last value alone.
theorem Aggregate.answer_perm {kind : Aggregate} (unordered : kind ≠ .first ∧ kind ≠ .last) {left right : List Value}
    (perm : left.Perm right) (floats : Binary64) : kind.answer ⟨left, floats⟩ = kind.answer ⟨right, floats⟩ := by
  cases kind with
  | first => exact absurd rfl unordered.1
  | last => exact absurd rfl unordered.2
  | max | min => simp only [answer, Value.sort_congr perm]
  | count | countDistinct => simp only [answer, countOf_perm perm]
  | _ => simp only [answer, integerTotal_perm perm, perm.any_eq, perm.isEmpty_eq, perm.length_eq]

namespace Ledger

variable {ledger : Ledger} {value : Value}

-- The total of a ledger with a float put on it and taken off again.
def throughFloat (ledger : Ledger) : Value → Ledger
  | .float x => { ledger with floats := ledger.floats + x - x }
  | _ => ledger

def takenBack (ledger : Ledger) (value : Value) : Ledger := (ledger.take (.insert, value)).take (.retract, value)

theorem held_takenBack (ledger : Ledger) (value : Value) : (ledger.takenBack value).held.Perm ledger.held := by
  change ((ledger.held ++ [value]).erase value).Perm ledger.held
  have whole : (ledger.held ++ [value]).Perm (value :: ledger.held) := List.perm_append_singleton value ledger.held
  simpa using whole.erase value

theorem floats_takenBack (settled : ledger.Settled) (alone : value.isFloat = true → ledger.held.any Value.isFloat = false) :
    (ledger.takenBack value).floats = ledger.floats := by
  have left := (ledger.held_takenBack value).any_eq (f := Value.isFloat)
  cases value with
  | float x =>
    change (if (ledger.takenBack (.float x)).held.any Value.isFloat then _ else Binary64.zero false) = _
    rw [left, alone rfl, settled (alone rfl)]
    rfl
  | _ => rfl

theorem floats_takenBack_of_float (other : ledger.held.any Value.isFloat = true) :
    (ledger.takenBack value).floats = (ledger.throughFloat value).floats := by
  have left := (ledger.held_takenBack value).any_eq (f := Value.isFloat)
  cases value with
  | float x =>
    change (if (ledger.takenBack (.float x)).held.any Value.isFloat then _ else Binary64.zero false) = _
    rw [left, other]
    rfl
  | _ => rfl

end Ledger

theorem End.answer_eq (wanted : End) (ledger : Ledger) :
    wanted.aggregate.answer ledger =
      (ArrivalOrder.atEnd wanted ledger.held).elim (.error (.noValues wanted.aggregate)) .ok := by
  cases wanted <;> rfl

theorem Extreme.answer_eq (extreme : Extreme) (ledger : Ledger) :
    extreme.aggregate.answer ledger =
      (extreme.atEnd (Value.sort ledger.held)).elim (.error (.noValues extreme.aggregate)) .ok := by
  cases extreme <;> rfl

theorem LiveValues.Holds.multiplicity_insert {live : LiveValues} {values : List Value} (holds : live.Holds values)
    (value : Value) : (live.insert value).multiplicity value = live.multiplicity value + 1 := by
  rw [(holds.insert value).multiplicity, List.count_append, List.count_singleton_self, holds.multiplicity]

theorem Sum.Keeps.checkUndo_plus {sum : Sum} {ledger : Ledger} {value : Value} (keeps : sum.Keeps ledger)
    (accepted : sum.checkIncorporate value = .ok ()) : (sum.plus value).checkUndo value = .ok () := by
  have after := keeps.plus accepted
  have held : value ∈ (ledger.take (.insert, value)).held := List.mem_append_right _ (List.mem_singleton_self value)
  rw [after.checkUndo_of_mem held]
  cases value with
  | int i =>
    have back : (sum.plus (.int i)).integers.toInt - i.toInt = sum.integers.toInt := by
      rw [after.integers, keeps.integers]
      simp [Ledger.take, Value.integerPart]
    simp only [checkRemaining, back, integer?_toInt]
  | _ => rfl

namespace Accumulator

variable {accumulator : Accumulator} {ledger : Ledger} {account : Account} {value : Value}

theorem Holds.current (holds : accumulator.Holds ledger) :
    accumulator.current = accumulator.aggregate.answer ledger := by
  cases accumulator with
  | avg running => exact Sum.Keeps.average holds
  | sum running =>
    have whole : Int64.ofInt (integerTotal ledger.held) = running.integers := by
      rw [← Sum.Keeps.integers holds, Int64.ofInt_toInt]
    refine (Sum.Keeps.current holds).trans ?_
    simp only [aggregate, Aggregate.answer, whole]
  | count live =>
    change Except.ok (Value.int (Int64.ofNat live.size)) = _
    rw [LiveValues.Holds.size holds]
    rfl
  | arrival order =>
    refine (ArrivalOrder.Holds.current holds).trans ?_
    rw [aggregate, End.answer_eq]
    cases ArrivalOrder.atEnd order.wanted ledger.held <;> rfl
  | ordered held =>
    change held.current = _
    rw [OrderedExtremum.current, OrderedExtremum.best?_eq holds, aggregate, Extreme.answer_eq]
    cases held.extreme.atEnd (Value.sort ledger.held) <;> rfl
  | rescan held =>
    change held.current = _
    rw [RescanExtremum.current, RescanExtremum.Holds.best holds, aggregate, Extreme.answer_eq]
    cases held.extreme.atEnd (Value.sort ledger.held) <;> rfl
  | distinct live inner => exact holds.elim

theorem Holds.checkUndo_incorporate (holds : accumulator.Holds ledger)
    (accepted : accumulator.checkIncorporate value = .ok ()) :
    (accumulator.incorporate value).state.checkUndo value = .ok () := by
  have after := holds.incorporate accepted
  have held : value ∈ (ledger.take (.insert, value)).held := List.mem_append_right _ (List.mem_singleton_self value)
  have ofSum {running : Sum} (keeps : running.Keeps ledger) (accepted : running.checkIncorporate value = .ok ()) :
      (running.incorporate value).state.checkUndo value = .ok () := by
    rw [Sum.incorporate_ok accepted]
    exact keeps.checkUndo_plus accepted
  cases accumulator with
  | avg running => exact ofSum holds accepted
  | sum running => exact ofSum holds accepted
  | count live => exact if_neg fun none => (LiveValues.Holds.multiplicity_eq_zero_iff after value).mp none held
  | arrival order => exact ArrivalOrder.Holds.checkUndo_of_mem after held
  | ordered counts => exact OrderedExtremum.checkUndo_of_mem after held
  | rescan values => exact RescanExtremum.Holds.checkUndo after held
  | distinct live inner => exact holds.elim

def withFloats (change : Binary64 → Binary64) : Accumulator → Accumulator
  | .avg running => .avg { running with floats := change running.floats }
  | .sum running => .sum { running with floats := change running.floats }
  | .distinct live inner => .distinct live (withFloats change inner)
  | other => other

theorem Holds.withFloats (holds : accumulator.Holds ledger) (change : Binary64 → Binary64) :
    (accumulator.withFloats change).Holds { ledger with floats := change ledger.floats } := by
  have ofSum {running : Sum} (keeps : running.Keeps ledger) :
      Sum.Keeps { running with floats := change running.floats } { ledger with floats := change ledger.floats } :=
    ⟨keeps.live, keeps.numbers, keeps.integers, keeps.floatCount, congrArg change keeps.floats⟩
  cases accumulator with
  | avg running => exact ofSum holds
  | sum running => exact ofSum holds
  | distinct live inner => exact holds.elim
  | _ => exact holds

theorem aggregate_withFloats (change : Binary64 → Binary64) (accumulator : Accumulator) :
    (accumulator.withFloats change).aggregate = accumulator.aggregate := by
  induction accumulator with
  | distinct live inner ih => exact congrArg Aggregate.distinct ih
  | _ => rfl

theorem aggregate_takenBack (value : Value) (accumulator : Accumulator) :
    ((accumulator.incorporate value).state.undo value).state.aggregate = accumulator.aggregate := by
  rw [aggregate_undo, aggregate_incorporate]

theorem Holds.takenBack (holds : accumulator.Holds ledger) (accepted : accumulator.checkIncorporate value = .ok ()) :
    ((accumulator.incorporate value).state.undo value).state.Holds (ledger.takenBack value) :=
  ((holds.incorporate accepted).undo (holds.checkUndo_incorporate accepted)).2

theorem Holds.current_takenBack (holds : accumulator.Holds ledger)
    (unordered : accumulator.aggregate ≠ .first ∧ accumulator.aggregate ≠ .last)
    (accepted : accumulator.checkIncorporate value = .ok ()) :
    ((accumulator.incorporate value).state.undo value).state.current =
      accumulator.aggregate.answer ⟨ledger.held, (ledger.takenBack value).floats⟩ := by
  rw [(holds.takenBack accepted).current, aggregate_takenBack]
  exact Aggregate.answer_perm unordered (ledger.held_takenBack value) _

-- Only sums and averages have a total of floats, and theirs is the same unless the value and another one are floats.
theorem Holds.current_unmixed (holds : accumulator.Holds ledger) (settled : ledger.Settled)
    (unordered : accumulator.aggregate ≠ .first ∧ accumulator.aggregate ≠ .last)
    (accepted : accumulator.checkIncorporate value = .ok ())
    (unmixed : value.isFloat = true → ledger.held.any Value.isFloat = true →
      ¬ (accumulator.aggregate = .avg ∨ accumulator.aggregate = .sum)) :
    ((accumulator.incorporate value).state.undo value).state.current = accumulator.current := by
  rw [holds.current_takenBack unordered accepted, holds.current]
  by_cases summing : accumulator.aggregate = .avg ∨ accumulator.aggregate = .sum
  · have alone : value.isFloat = true → ledger.held.any Value.isFloat = false := by
      intro float
      cases other : ledger.held.any Value.isFloat with
      | false => rfl
      | true => exact absurd summing (unmixed float other)
    rw [Ledger.floats_takenBack settled alone]
  · cases accumulator with
    | avg running => exact absurd (.inl rfl) summing
    | sum running => exact absurd (.inr rfl) summing
    | count live => rfl
    | arrival order => simp only [aggregate, End.answer_eq]
    | ordered held => simp only [aggregate, Extreme.answer_eq]
    | rescan held => simp only [aggregate, Extreme.answer_eq]
    | distinct live inner => exact holds.elim

theorem Holds.current_mixed {x : Binary64} (holds : accumulator.Holds ledger)
    (unordered : accumulator.aggregate ≠ .first ∧ accumulator.aggregate ≠ .last)
    (accepted : accumulator.checkIncorporate (.float x) = .ok ()) (other : ledger.held.any Value.isFloat = true) :
    ((accumulator.incorporate (.float x)).state.undo (.float x)).state.current =
      (accumulator.withFloats fun total => total + x - x).current := by
  rw [holds.current_takenBack unordered accepted, (holds.withFloats _).current, aggregate_withFloats,
    Ledger.floats_takenBack_of_float other]
  rfl

theorem Keeps.checkUndo_incorporate (keeps : accumulator.Keeps account)
    (accepted : accumulator.checkIncorporate value = .ok ()) :
    (accumulator.incorporate value).state.checkUndo value = .ok () := by
  cases keeps with
  | plain holds => exact holds.checkUndo_incorporate accepted
  | @distinct live inner account copies holds hasDistinct =>
    have more := copies.multiplicity_insert value
    by_cases absent : live.multiplicity value = 0
    · rw [checkIncorporate, if_pos absent] at accepted
      rw [incorporate_new absent accepted, checkUndo_last (by omega)]
      exact holds.checkUndo_incorporate accepted
    · rw [incorporate_again absent, checkUndo_copy (by omega)]

end Accumulator

-- Whether an aggregate adds a float to a total of others. A distinct one does so only with a value that is new.
def Aggregate.mixesFloats (kind : Aggregate) (held : List Value) (value : Value) : Prop :=
  value.isFloat = true ∧ held.any Value.isFloat = true ∧
    (kind = .avg ∨ kind = .sum ∨ (kind = .avgDistinct ∨ kind = .sumDistinct) ∧ value ∉ held)

instance (kind : Aggregate) (held : List Value) (value : Value) : Decidable (kind.mixesFloats held value) :=
  inferInstanceAs (Decidable (_ ∧ _))

theorem Account.Sound.any_isFloat {account : Account} (sound : account.Sound) :
    account.once.held.any Value.isFloat = account.all.held.any Value.isFloat := by
  rw [Bool.eq_iff_iff]
  simp only [List.any_eq_true, sound.member]

namespace Accumulator

variable {accumulator : Accumulator} {account : Account} {value : Value}

theorem unordered_of_distinct {kind : Aggregate} (hasDistinct : kind.distinct ≠ kind) : kind ≠ .first ∧ kind ≠ .last := by
  constructor <;> rintro rfl <;> exact hasDistinct rfl

theorem Keeps.current_unmixed (keeps : accumulator.Keeps account) (sound : account.Sound)
    (unordered : accumulator.aggregate ≠ .first ∧ accumulator.aggregate ≠ .last)
    (accepted : accumulator.checkIncorporate value = .ok ())
    (unmixed : ¬ accumulator.aggregate.mixesFloats account.all.held value) :
    ((accumulator.incorporate value).state.undo value).state.current = accumulator.current := by
  cases keeps with
  | plain holds =>
    refine holds.current_unmixed sound.allSettled unordered accepted ?_
    rintro float other (avg | sum)
    · exact unmixed ⟨float, other, .inl avg⟩
    · exact unmixed ⟨float, other, .inr (.inl sum)⟩
  | @distinct live inner account copies holds hasDistinct =>
    have more := copies.multiplicity_insert value
    by_cases absent : live.multiplicity value = 0
    · have new := (copies.multiplicity_eq_zero_iff value).mp absent
      rw [checkIncorporate, if_pos absent] at accepted
      rw [incorporate_new absent accepted, undo_last (by omega) (holds.checkUndo_incorporate accepted)]
      refine holds.current_unmixed sound.onceSettled (unordered_of_distinct hasDistinct) accepted ?_
      rw [sound.any_isFloat]
      rintro float other (avg | sum)
      · exact unmixed ⟨float, other, .inr (.inr ⟨.inl (congrArg Aggregate.distinct avg), new⟩)⟩
      · exact unmixed ⟨float, other, .inr (.inr ⟨.inr (congrArg Aggregate.distinct sum), new⟩)⟩
    · rw [incorporate_again absent, undo_copy (by omega)]
      rfl

theorem Keeps.current_mixed {x : Binary64} (keeps : accumulator.Keeps account) (sound : account.Sound)
    (accepted : accumulator.checkIncorporate (.float x) = .ok ())
    (mixed : accumulator.aggregate.mixesFloats account.all.held (.float x)) :
    ((accumulator.incorporate (.float x)).state.undo (.float x)).state.current =
      (accumulator.withFloats fun total => total + x - x).current := by
  obtain ⟨_, other, kind⟩ := mixed
  cases keeps with
  | plain holds =>
    refine holds.current_mixed ?_ accepted other
    rcases kind with kind | kind | ⟨kind | kind, _⟩ <;> simp [kind]
  | @distinct live inner account copies holds hasDistinct =>
    have more := copies.multiplicity_insert (.float x)
    have new : .float x ∉ account.all.held := by
      rcases kind with avg | sum | ⟨_, new⟩
      · cases same : inner.aggregate <;> simp [aggregate, same, Aggregate.distinct] at avg hasDistinct
      · cases same : inner.aggregate <;> simp [aggregate, same, Aggregate.distinct] at sum hasDistinct
      · exact new
    have absent := (copies.multiplicity_eq_zero_iff (.float x)).mpr new
    rw [checkIncorporate, if_pos absent] at accepted
    rw [incorporate_new absent accepted, undo_last (by omega) (holds.checkUndo_incorporate accepted)]
    exact holds.current_mixed (unordered_of_distinct hasDistinct) accepted (sound.any_isFloat.trans other)

def heldAfter (strategy : ExtremumStrategy) (kind : Aggregate) (calls : List Call) : List Value :=
  (Account.ofChanges ((fresh strategy kind).accepted calls)).all.held

-- A value that was accepted can be taken back at once. The answer is then what it was, unless a float was added to
-- a total of others: that total has the float put on it and taken off again, each time rounded.
theorem undo_takes_back (strategy : ExtremumStrategy) (kind : Aggregate) (unordered : kind ≠ .first ∧ kind ≠ .last)
    (calls : List Call) (value : Value)
    (accepted : (((fresh strategy kind).afterCalls calls).incorporate value).result = .ok ()) :
    let accumulator := (fresh strategy kind).afterCalls calls
    let back := (accumulator.incorporate value).state.undo value
    back.result = .ok () ∧
      (¬ kind.mixesFloats (heldAfter strategy kind calls) value → back.state.current = accumulator.current) ∧
      ∀ x, value = .float x → kind.mixesFloats (heldAfter strategy kind calls) value →
        back.state.current = (accumulator.withFloats fun total => total + x - x).current := by
  intro accumulator back
  have tracks := (tracks_fresh strategy kind).afterCalls calls
  rw [List.nil_append] at tracks
  have sound := Account.sound_ofChanges ((fresh strategy kind).accepted calls)
  have same : accumulator.aggregate = kind :=
    ((fresh strategy kind).aggregate_afterCalls calls).trans (aggregate_fresh strategy kind)
  rw [(incorporate_follows value accumulator).result] at accepted
  refine ⟨?_, ?_, ?_⟩
  · rw [(undo_follows value _).result]
    exact tracks.keeps.checkUndo_incorporate accepted
  · intro unmixed
    refine tracks.keeps.current_unmixed sound ?_ accepted ?_
    · rwa [same]
    · rwa [same]
  · rintro x rfl mixed
    refine tracks.keeps.current_mixed sound accepted ?_
    rwa [same]

theorem undo_takes_back_twoFloats :
    (((fresh .ordered .sum).afterCalls [.incorporate (.float (Binary64.ofInt 1))]).incorporate
        (.float (Binary64.ofInt 2))).result = .ok () ∧
      ((((fresh .ordered .sum).afterCalls [.incorporate (.float (Binary64.ofInt 1))]).incorporate
        (.float (Binary64.ofInt 2))).state.undo (.float (Binary64.ofInt 2))).state.current =
        .ok (.float (Binary64.ofInt 1)) := by
  have accepted : (((fresh .ordered .sum).afterCalls [.incorporate (.float (Binary64.ofInt 1))]).incorporate
      (.float (Binary64.ofInt 2))).result = .ok () := by decide +kernel
  obtain ⟨_, _, mixed⟩ := undo_takes_back .ordered .sum (by decide) [.incorporate (.float (Binary64.ofInt 1))] _ accepted
  refine ⟨accepted, (mixed _ rfl (by decide +kernel)).trans ?_⟩
  decide +kernel

-- A float that swallows the others takes them with it: one is left of 1 and 10^16 when the latter goes, and the sum
-- is 0.
theorem undo_of_large_float_loses_others :
    (((fresh .ordered .sum).afterCalls [.incorporate (.float (Binary64.ofInt 1))]).incorporate
        (.float (Binary64.ofInt (10 ^ 16)))).result = .ok () ∧
      ((fresh .ordered .sum).afterCalls [.incorporate (.float (Binary64.ofInt 1))]).current =
        .ok (.float (Binary64.ofInt 1)) ∧
      ((((fresh .ordered .sum).afterCalls [.incorporate (.float (Binary64.ofInt 1))]).incorporate
        (.float (Binary64.ofInt (10 ^ 16)))).state.undo (.float (Binary64.ofInt (10 ^ 16)))).state.current =
        .ok (.float (.zero false)) ∧
      Binary64.ofInt 1 ≠ .zero false := by
  decide +kernel

end Accumulator

end DeltaQuery
