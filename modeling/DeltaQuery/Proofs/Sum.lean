import DeltaQuery.Accumulator.Sum
import DeltaQuery.Proofs.LiveValues
import DeltaQuery.Proofs.Recomputation

namespace DeltaQuery.Sum

variable {sum : Sum} {ledger : Ledger} {value : Value}

structure Keeps (sum : Sum) (ledger : Ledger) : Prop where
  live : sum.live.Holds ledger.held
  numbers : ∀ value ∈ ledger.held, isNumber value = true
  integers : sum.integers.toInt = integerTotal ledger.held
  floatCount : sum.floatCount = ledger.held.countP Value.isFloat
  floats : sum.floats = ledger.floats

theorem keeps_empty : Keeps {} {} where
  live := LiveValues.holds_empty
  numbers := by simp
  integers := rfl
  floatCount := rfl
  floats := rfl

theorem add_toInt {a b word : Int64} (fits : integer? (a.toInt + b.toInt) = some word) :
    (a + b).toInt = a.toInt + b.toInt := by
  have whole : a + b = Int64.ofInt (a.toInt + b.toInt) := by
    rw [Int64.ofInt_add, Int64.ofInt_toInt, Int64.ofInt_toInt]
  rw [whole, ← eq_ofInt_of_integer? fits, toInt_of_integer? fits]

theorem sub_toInt {a b word : Int64} (fits : integer? (a.toInt - b.toInt) = some word) :
    (a - b).toInt = a.toInt - b.toInt := by
  have whole : a - b = Int64.ofInt (a.toInt - b.toInt) := by
    rw [Int64.ofInt_sub, Int64.ofInt_toInt, Int64.ofInt_toInt]
  rw [whole, ← eq_ofInt_of_integer? fits, toInt_of_integer? fits]

theorem incorporate_follows (sum : Sum) (value : Value) :
    (sum.incorporate value).Follows (sum.checkIncorporate value) sum := by
  unfold incorporate
  cases sum.checkIncorporate value with
  | error cause => exact Attempt.follows_failed sum cause
  | ok => exact Attempt.follows_done sum (sum.plus value) ()

theorem incorporate_ok (accepted : sum.checkIncorporate value = .ok ()) :
    (sum.incorporate value).state = sum.plus value := by
  unfold incorporate
  rw [accepted]
  rfl

theorem Keeps.numbers_snoc (keeps : sum.Keeps ledger) (number : isNumber value = true) :
    ∀ other ∈ ledger.held ++ [value], isNumber other = true := by
  intro other member
  rcases List.mem_append.mp member with old | new
  · exact keeps.numbers other old
  · rw [List.mem_singleton.mp new]
    exact number

theorem Keeps.plus (keeps : sum.Keeps ledger) (accepted : sum.checkIncorporate value = .ok ()) :
    (sum.plus value).Keeps (ledger.take (.insert, value)) := by
  have live := keeps.live.insert value
  cases value with
  | int i =>
    have exact_ : (sum.integers + i).toInt = sum.integers.toInt + i.toInt := by
      unfold checkIncorporate at accepted
      dsimp only at accepted
      split at accepted
      · rename_i word fits
        exact add_toInt fits
      · cases accepted
    refine ⟨live, keeps.numbers_snoc rfl, ?_, ?_, keeps.floats⟩
    · change (sum.integers + i).toInt = integerTotal (ledger.held ++ [Value.int i])
      rw [exact_, keeps.integers, integerTotal_append]
      rfl
    · change sum.floatCount = (ledger.held ++ [Value.int i]).countP Value.isFloat
      rw [keeps.floatCount, List.countP_append]
      rfl
  | float x =>
    refine ⟨live, keeps.numbers_snoc rfl, ?_, ?_, ?_⟩
    · change sum.integers.toInt = integerTotal (ledger.held ++ [Value.float x])
      rw [keeps.integers, integerTotal_append]
      exact (Int.add_zero _).symm
    · change sum.floatCount + 1 = (ledger.held ++ [Value.float x]).countP Value.isFloat
      rw [keeps.floatCount, List.countP_append]
      rfl
    · change sum.floats + x = ledger.floats + x
      rw [keeps.floats]
  | _ => cases accepted

theorem undo_follows (sum : Sum) (value : Value) : (sum.undo value).Follows (sum.checkUndo value) sum := by
  unfold undo
  cases sum.checkUndo value with
  | error cause => exact Attempt.follows_failed sum cause
  | ok => exact Attempt.follows_done sum (sum.minus value) ()

theorem undo_ok (accepted : sum.checkUndo value = .ok ()) : (sum.undo value).state = sum.minus value := by
  unfold undo
  rw [accepted]
  rfl

theorem checkUndo_ok (accepted : sum.checkUndo value = .ok ()) :
    isNumber value = true ∧ sum.live.multiplicity value ≠ 0 ∧ sum.checkRemaining value = .ok () := by
  unfold checkUndo at accepted
  split at accepted
  · cases accepted
  · rename_i number
    split at accepted
    · cases accepted
    · rename_i held
      exact ⟨by simpa using number, held, accepted⟩

theorem Keeps.minus (keeps : sum.Keeps ledger) (accepted : sum.checkUndo value = .ok ()) :
    value ∈ ledger.held ∧ (sum.minus value).Keeps (ledger.take (.retract, value)) := by
  obtain ⟨number, live, remaining⟩ := checkUndo_ok accepted
  have held : value ∈ ledger.held := by
    by_contra absent
    exact live ((keeps.live.multiplicity_eq_zero_iff value).mpr absent)
  have rest := keeps.live.erase value
  have numbers : ∀ other ∈ ledger.held.erase value, isNumber other = true :=
    fun other member => keeps.numbers other (List.mem_of_mem_erase member)
  have total := integerTotal_erase held
  have floats := countP_erase held Value.isFloat
  refine ⟨held, ?_⟩
  cases value with
  | int i =>
    have exact_ : (sum.integers - i).toInt = sum.integers.toInt - i.toInt := by
      unfold checkRemaining at remaining
      dsimp only at remaining
      split at remaining
      · rename_i word fits
        exact sub_toInt fits
      · cases remaining
    have sameFloats : (ledger.held.erase (.int i)).countP Value.isFloat = ledger.held.countP Value.isFloat := by
      simpa [Value.isFloat] using floats
    refine ⟨rest, numbers, ?_, ?_, keeps.floats⟩
    · change (sum.integers - i).toInt = integerTotal (ledger.held.erase (.int i))
      rw [exact_, keeps.integers, total]
      rfl
    · change sum.floatCount = (ledger.held.erase (.int i)).countP Value.isFloat
      rw [keeps.floatCount, sameFloats]
  | float x =>
    have oneLess : sum.floatCount - 1 = (ledger.held.erase (.float x)).countP Value.isFloat := by
      rw [keeps.floatCount, ← floats]
      rfl
    refine ⟨rest, numbers, ?_, oneLess, ?_⟩
    · change sum.integers.toInt = integerTotal (ledger.held.erase (.float x))
      rw [keeps.integers, total]
      exact (Int.sub_zero _).symm
    · change (if sum.floatCount - 1 = 0 then Binary64.zero false else sum.floats - x) =
        if (ledger.held.erase (.float x)).any Value.isFloat then ledger.floats - x else .zero false
      rw [oneLess, keeps.floats]
      cases left : (ledger.held.erase (.float x)).any Value.isFloat with
      | false => rw [if_pos ((any_eq_false_iff_countP _ _).mp left), if_neg Bool.false_ne_true]
      | true =>
        rw [if_pos rfl, if_neg]
        intro none
        rw [(any_eq_false_iff_countP _ _).mpr none] at left
        cases left
  | _ => cases number

-- A value that is held is refused for what would remain, never as one that is not there.
theorem Keeps.checkUndo_of_mem (keeps : sum.Keeps ledger) (held : value ∈ ledger.held) :
    sum.checkUndo value = sum.checkRemaining value := by
  have live : sum.live.multiplicity value ≠ 0 := fun none => (keeps.live.multiplicity_eq_zero_iff value).mp none held
  unfold checkUndo
  rw [keeps.numbers value held, if_neg (by decide), if_neg live]

theorem Keeps.checkUndo_kind (keeps : sum.Keeps ledger) (held : value ∈ ledger.held) {cause : Cause}
    (refused : sum.checkUndo value = .error cause) : cause.kind = .evaluation := by
  rw [keeps.checkUndo_of_mem held] at refused
  cases value with
  | int i =>
    unfold checkRemaining at refused
    dsimp only at refused
    split at refused <;> cases refused
    rfl
  | _ => cases refused

theorem Keeps.isEmpty (keeps : sum.Keeps ledger) : sum.live.isEmpty = ledger.held.isEmpty := by
  unfold LiveValues.isEmpty
  rw [keeps.live.size]
  cases ledger.held <;> rfl

theorem Keeps.total (keeps : sum.Keeps ledger) :
    sum.total = Binary64.ofInt (integerTotal ledger.held) + ledger.floats := by
  unfold Sum.total Value.floatOfInt
  rw [keeps.integers, keeps.floats]

theorem Keeps.current (keeps : sum.Keeps ledger) :
    sum.current = if ledger.held.isEmpty then .error (.noValues .sum)
      else if ledger.held.any Value.isFloat then .ok (.float (Binary64.ofInt (integerTotal ledger.held) + ledger.floats))
      else .ok (.int sum.integers) := by
  unfold Sum.current
  rw [keeps.isEmpty, keeps.floatCount, keeps.total]
  cases floats : ledger.held.any Value.isFloat with
  | false => rw [if_pos ((any_eq_false_iff_countP _ _).mp floats), if_neg Bool.false_ne_true]
  | true =>
    have present : ¬ ledger.held.countP Value.isFloat = 0 := by
      intro none
      rw [(any_eq_false_iff_countP _ _).mpr none] at floats
      cases floats
    rw [if_neg present, if_pos rfl]

theorem Keeps.average (keeps : sum.Keeps ledger) :
    sum.average = if ledger.held.isEmpty then .error (.noValues .avg)
      else .ok (.float ((Binary64.ofInt (integerTotal ledger.held) + ledger.floats) /
        Binary64.ofInt ledger.held.length)) := by
  unfold Sum.average Sum.count
  rw [keeps.live.size, keeps.total]
  cases ledger.held <;> rfl

end DeltaQuery.Sum
