import DeltaQuery.Instant.Calendar
import Mathlib.Algebra.Ring.Nat

namespace DeltaQuery.Calendar

def yearLength (year : Int) : Nat := if isLeap year then 366 else 365

theorem daysBefore_succ (year : Int) : daysBefore (year + 1) = daysBefore year + yearLength year := by
  unfold daysBefore yearLength isLeap
  simp only [beq_iff_eq, bne_iff_ne, Bool.and_eq_true, Bool.or_eq_true]
  split <;> omega

-- 400 years have 146097 days, so the estimate is the year of the day, the one before it or the one after it.
theorem daysBefore_estimate (day : Int) :
    daysBefore (day * 400 / 146097) ≤ day ∧ day < daysBefore (day * 400 / 146097 + 1 + 1 + 1) := by
  unfold daysBefore
  dsimp only
  omega

theorem daysBefore_yearOf (day : Int) : daysBefore (yearOf day) ≤ day ∧ day < daysBefore (yearOf day + 1) := by
  obtain ⟨early, late⟩ := daysBefore_estimate day
  unfold yearOf
  dsimp only
  generalize day * 400 / 146097 = guess at early late ⊢
  split
  next before =>
    rw [Int.add_sub_cancel]
    exact ⟨early, before⟩
  next notBefore =>
    split
    next after => exact ⟨after, late⟩
    next notAfter => exact ⟨Int.not_lt.mp notBefore, Int.not_le.mp notAfter⟩

theorem sum_monthLengths (year : Int) : (monthLengths year).sum = yearLength year := by
  unfold monthLengths yearLength
  cases isLeap year <;> rfl

theorem monthLengths_le {year : Int} {length : Nat} (member : length ∈ monthLengths year) : length ≤ 31 := by
  unfold monthLengths at member
  revert length
  cases isLeap year <;> decide

theorem monthOf_within {day : Nat} {lengths : List Nat} (within : day < lengths.sum) (month : Nat) :
    ∃ past length, lengths[past]? = some length ∧ (monthOf month day lengths).1 = month + past ∧
      1 ≤ (monthOf month day lengths).2 ∧ (monthOf month day lengths).2 ≤ length ∧
      (lengths.take past).sum + (monthOf month day lengths).2 = day + 1 := by
  induction lengths generalizing day month with
  | nil => cases within
  | cons length rest ih =>
    unfold monthOf
    split
    next inside => exact ⟨0, length, rfl, rfl, by omega, inside, Nat.zero_add _⟩
    next beyond =>
      rw [List.sum_cons] at within
      have later : day - length < rest.sum := by omega
      obtain ⟨past, other, there, number, first, last, total⟩ := ih later (month + 1)
      refine ⟨past + 1, other, there, ?_, first, last, ?_⟩
      · omega
      · rw [List.take_succ_cons, List.sum_cons]
        omega

theorem isDate_bounds {date : Date} (real : isDate date = true) : date.month ≤ 12 ∧ date.day ≤ 31 := by
  unfold isDate at real
  simp only [Bool.and_eq_true, decide_eq_true_eq, Option.any_eq_true] at real
  obtain ⟨_, length, there, last⟩ := real
  have month : date.month - 1 < 12 := (List.getElem?_eq_some_iff.mp there).1
  exact ⟨by omega, Nat.le_trans last (monthLengths_le (List.mem_of_getElem? there))⟩

theorem dateOf_within (day : Int) :
    ∃ past length, (monthLengths (dateOf day).year)[past]? = some length ∧ (dateOf day).month = 1 + past ∧
      1 ≤ (dateOf day).day ∧ (dateOf day).day ≤ length ∧
      daysBefore (dateOf day).year + ((monthLengths (dateOf day).year).take past).sum + (dateOf day).day =
        day + epoch + 1 := by
  obtain ⟨begun, notEnded⟩ := daysBefore_yearOf (day + epoch)
  unfold dateOf
  dsimp only
  generalize yearOf (day + epoch) = year at begun notEnded ⊢
  rw [daysBefore_succ] at notEnded
  have within : (day + epoch - daysBefore year).toNat < (monthLengths year).sum := by
    rw [sum_monthLengths]
    omega
  obtain ⟨past, length, there, number, first, last, total⟩ := monthOf_within within 1
  exact ⟨past, length, there, number, first, last, by omega⟩

theorem isDate_dateOf (day : Int) : isDate (dateOf day) = true := by
  obtain ⟨past, length, there, number, first, last, _⟩ := dateOf_within day
  generalize dateOf day = date at *
  unfold isDate
  simp [number, there, first, last]

theorem dayOf_dateOf (day : Int) : dayOf (dateOf day) = day := by
  obtain ⟨past, length, there, number, first, last, total⟩ := dateOf_within day
  unfold dayOf
  dsimp only
  rw [number, Nat.add_sub_cancel_left, ← List.sum_eq_foldl]
  omega

end DeltaQuery.Calendar
