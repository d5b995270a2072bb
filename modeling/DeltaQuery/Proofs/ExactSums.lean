import DeltaQuery.Proofs.TakenBack

namespace DeltaQuery

def FitsWord (i : Int) : Prop := -(2 ^ 63) ≤ i ∧ i < 2 ^ 63

instance (i : Int) : Decidable (FitsWord i) := inferInstanceAs (Decidable (_ ∧ _))

theorem integer?_of_fitsWord {i : Int} (fits : FitsWord i) : integer? i = some (Int64.ofInt i) := if_pos fits

theorem integer?_of_not_fitsWord {i : Int} (unfit : ¬ FitsWord i) : integer? i = none := if_neg unfit

theorem fitsWord_toInt (word : Int64) : FitsWord word.toInt := ⟨word.le_toInt, word.toInt_lt⟩

namespace Sum

variable {sum : Sum} {ledger : Ledger} {value : Value}

theorem Keeps.checkIncorporate_int (keeps : sum.Keeps ledger) (i : Int64) :
    sum.checkIncorporate (.int i) =
      if FitsWord (integerTotal ledger.held + i.toInt) then .ok ()
      else .error (.sumOverflow .incorporate i sum.integers) := by
  by_cases fits : FitsWord (integerTotal ledger.held + i.toInt)
  · simp only [checkIncorporate, keeps.integers, integer?_of_fitsWord fits, if_pos fits]
  · simp only [checkIncorporate, keeps.integers, integer?_of_not_fitsWord fits, if_neg fits]

theorem Keeps.checkUndo_int {i : Int64} (keeps : sum.Keeps ledger) (held : .int i ∈ ledger.held) :
    sum.checkUndo (.int i) =
      if FitsWord (integerTotal (ledger.held.erase (.int i))) then .ok ()
      else .error (.sumOverflow .undo i sum.integers) := by
  have left : integerTotal (ledger.held.erase (.int i)) = integerTotal ledger.held - i.toInt := integerTotal_erase held
  rw [keeps.checkUndo_of_mem held, left]
  by_cases fits : FitsWord (integerTotal ledger.held - i.toInt)
  · simp only [checkRemaining, keeps.integers, integer?_of_fitsWord fits, if_pos fits]
  · simp only [checkRemaining, keeps.integers, integer?_of_not_fitsWord fits, if_neg fits]

theorem Keeps.checkUndo_float {x : Binary64} (keeps : sum.Keeps ledger) (held : .float x ∈ ledger.held) :
    sum.checkUndo (.float x) = .ok () := keeps.checkUndo_of_mem held

theorem Keeps.checkUndo_refused (keeps : sum.Keeps ledger) (held : value ∈ ledger.held) {cause : Cause}
    (refused : sum.checkUndo value = .error cause) :
    ∃ i, value = .int i ∧ cause = .sumOverflow .undo i sum.integers ∧
      ¬ FitsWord (integerTotal (ledger.held.erase value)) := by
  have number := keeps.numbers value held
  cases value with
  | int i =>
    rw [keeps.checkUndo_int held] at refused
    split at refused
    · cases refused
    · rename_i unfit
      cases refused
      exact ⟨i, rfl, rfl, unfit⟩
  | float x => cases (keeps.checkUndo_float held).symm.trans refused
  | _ => cases number

theorem Keeps.current_int_iff (keeps : sum.Keeps ledger) (word : Int64) :
    sum.current = .ok (.int word) ↔
      ledger.held ≠ [] ∧ ledger.held.any Value.isFloat = false ∧ word.toInt = integerTotal ledger.held := by
  have exactly : sum.integers = word ↔ word.toInt = integerTotal ledger.held := by
    rw [← keeps.integers, Int64.toInt_inj, eq_comm]
  rw [keeps.current, ← exactly, ← List.isEmpty_eq_false_iff]
  cases ledger.held.isEmpty <;> cases ledger.held.any Value.isFloat <;> simp

-- A sum of live values: what it keeps of them, when it takes another and gives one back, and when it is an integer.
structure Exact (sum : Sum) (live : List Value) : Prop where
  integers : sum.integers.toInt = integerTotal live
  inRange : FitsWord (integerTotal live)
  floatCount : sum.floatCount = live.countP Value.isFloat
  count : sum.count = live.length
  floats : live.any Value.isFloat = false → sum.floats = .zero false
  incorporate : ∀ i : Int64, (sum.incorporate (.int i)).result =
    if FitsWord (integerTotal live + i.toInt) then .ok () else .error (.sumOverflow .incorporate i sum.integers)
  undo : ∀ i : Int64, .int i ∈ live → (sum.undo (.int i)).result =
    if FitsWord (integerTotal (live.erase (.int i))) then .ok () else .error (.sumOverflow .undo i sum.integers)
  undoFloat : ∀ x : Binary64, .float x ∈ live → (sum.undo (.float x)).result = .ok ()
  current : ∀ word : Int64, sum.current = .ok (.int word) ↔
    live ≠ [] ∧ live.any Value.isFloat = false ∧ word.toInt = integerTotal live

theorem Keeps.exact (keeps : sum.Keeps ledger) (settled : ledger.Settled) : sum.Exact ledger.held where
  integers := keeps.integers
  inRange := keeps.integers ▸ fitsWord_toInt sum.integers
  floatCount := keeps.floatCount
  count := keeps.live.size
  floats := fun none => keeps.floats.trans (settled none)
  incorporate i := (sum.incorporate_follows (.int i)).result.trans (keeps.checkIncorporate_int i)
  undo i held := (sum.undo_follows (.int i)).result.trans (keeps.checkUndo_int held)
  undoFloat x held := (sum.undo_follows (.float x)).result.trans (keeps.checkUndo_float held)
  current := keeps.current_int_iff

end Sum

namespace Accumulator

variable {accumulator : Accumulator} {ledger : Ledger} {account : Account}

-- A plain accumulator whose aggregate has a distinct form is a count, a sum or an average.
theorem Holds.of_hasDistinct (holds : accumulator.Holds ledger)
    (hasDistinct : accumulator.aggregate.distinct ≠ accumulator.aggregate) :
    (∃ live, accumulator = .count live ∧ live.Holds ledger.held) ∨
      ∃ running, (accumulator = .sum running ∨ accumulator = .avg running) ∧ running.Keeps ledger := by
  cases accumulator with
  | count live => exact .inl ⟨live, rfl, holds⟩
  | sum running => exact .inr ⟨running, .inl rfl, holds⟩
  | avg running => exact .inr ⟨running, .inr rfl, holds⟩
  | arrival order => cases wanted : order.wanted <;> simp [aggregate, wanted, End.aggregate, Aggregate.distinct] at hasDistinct
  | ordered held =>
    cases extreme : held.extreme <;> simp [aggregate, extreme, Extreme.aggregate, Aggregate.distinct] at hasDistinct
  | rescan held =>
    cases extreme : held.extreme <;> simp [aggregate, extreme, Extreme.aggregate, Aggregate.distinct] at hasDistinct
  | distinct live inner => exact holds.elim

theorem Keeps.exists_sum (keeps : accumulator.Keeps account) (summing : accumulator.aggregate = .sum) :
    ∃ sum, accumulator = .sum sum ∧ sum.Keeps account.all := by
  cases keeps with
  | plain holds =>
    have hasDistinct : accumulator.aggregate.distinct ≠ accumulator.aggregate := by
      rw [summing]
      decide
    rcases holds.of_hasDistinct hasDistinct with ⟨live, rfl, _⟩ | ⟨running, rfl | rfl, keeps⟩
    · cases summing
    · exact ⟨running, rfl, keeps⟩
    · cases summing
  | @distinct live inner account copies holds hasDistinct =>
    cases kind : inner.aggregate <;> simp [aggregate, kind, Aggregate.distinct] at summing hasDistinct

-- After any calls, those that were refused among them, a sum is the exact sum of the values that are live: those
-- that were incorporated and have not been undone since.
theorem sum_exact (strategy : ExtremumStrategy) (calls : List Call) :
    let live := heldAfter strategy .sum calls
    let changes := (fresh strategy .sum).accepted calls
    (∀ value, live.count value + changes.count (.retract, value) = changes.count (.insert, value)) ∧
      ∃ sum, (fresh strategy .sum).afterCalls calls = .sum sum ∧ sum.Exact live := by
  intro live changes
  have tracks := (tracks_fresh strategy .sum).afterCalls calls
  rw [List.nil_append] at tracks
  have summing := ((fresh strategy .sum).aggregate_afterCalls calls).trans (aggregate_fresh strategy .sum)
  obtain ⟨sum, same, keeps⟩ := tracks.keeps.exists_sum summing
  exact ⟨tracks.count_held, sum, same, keeps.exact (Account.sound_ofChanges changes).allSettled⟩

example :
    let held : List Call := [.incorporate (.int Int64.minValue), .incorporate (.int Int64.maxValue),
      .incorporate (.int Int64.maxValue)]
    ((fresh .ordered .sum).afterCalls held).checkUndo (.int Int64.minValue) =
        .error (.sumOverflow .undo Int64.minValue (Int64.maxValue - 1)) ∧
      ((fresh .ordered .sum).afterCalls (held ++ [.undo (.int Int64.maxValue)])).checkUndo (.int Int64.minValue) =
        .ok () := by
  decide +kernel

end Accumulator

end DeltaQuery
