import DeltaQuery.Proofs.Rounding

namespace DeltaQuery.Value

private theorem then_swap (o p : Ordering) : (o.then p).swap = o.swap.then p.swap := by cases o <;> rfl

private theorem binary64_swap (a b : Binary64) : Ord.compare a b = (Ord.compare b a).swap := by
  rw [Binary64.compare_eq_compare_rank, Binary64.compare_eq_compare_rank]
  exact Std.OrientedOrd.eq_swap

private theorem instant_swap (a b : Instant) : Ord.compare a b = (Ord.compare b a).swap := by
  rw [Instant.compare_eq_then, Instant.compare_eq_then, then_swap, ← Std.OrientedOrd.eq_swap,
    ← Std.OrientedOrd.eq_swap]

mutual

theorem compare_swap : (a b : Value) → compare a b = (compare b a).swap
  | .null, b => by cases b <;> rfl
  | .bool a, b => by
    cases b with
    | bool b => exact Std.OrientedOrd.eq_swap
    | _ => rfl
  | .int a, b => by
    cases b with
    | int b => exact Std.OrientedOrd.eq_swap
    | float x =>
      simp only [compare]
      rw [then_swap, ← binary64_swap]
      rfl
    | _ => rfl
  | .float x, b => by
    cases b with
    | float y => exact binary64_swap x y
    | int i =>
      simp only [compare]
      rw [then_swap, ← binary64_swap]
      rfl
    | _ => rfl
  | .text a, b => by
    cases b with
    | text b => exact Std.OrientedOrd.eq_swap
    | _ => rfl
  | .time a, b => by
    cases b with
    | time b => exact instant_swap a b
    | _ => rfl
  | .tuple a, b => by
    cases b with
    | tuple b => exact compareItems_swap a b
    | _ => rfl

theorem compareItems_swap : (as bs : List Value) → compareItems as bs = (compareItems bs as).swap
  | [], [] => rfl
  | [], _ :: _ => rfl
  | _ :: _, [] => rfl
  | a :: as, b :: bs => by
    simp only [compareItems]
    rw [then_swap, ← compare_swap a b, ← compareItems_swap as bs]

end

instance : Std.OrientedCmp compare := ⟨compare_swap _ _⟩
instance : Std.OrientedCmp compareItems := ⟨compareItems_swap _ _⟩
instance : Std.LawfulEqCmp compare := ⟨fun equal => (compare_eq_iff _ _).mp equal⟩
instance : Std.LawfulEqCmp compareItems := ⟨fun equal => (compareItems_eq_iff _ _).mp equal⟩

-- Integers and floats are compared by one key, the place of the float first, since rounding keeps the order. What
-- ties there is told apart by type and then as integers.
private def place : Value → Int
  | .int i => (floatOfInt i).rank
  | .float x => x.rank
  | _ => 0

private def integer : Value → Int
  | .int i => i.toInt
  | _ => 0

private def compareNumbers : Value → Value → Ordering :=
  compareLex (compareOn place) (compareLex (compareOn typeRank) (compareOn integer))

private def isNumber : Value → Bool
  | .int _ => true
  | .float _ => true
  | _ => false

private theorem compare_int64 (i j : Int64) : Ord.compare i j = Ord.compare i.toInt j.toInt := by
  rcases Int.lt_trichotomy i.toInt j.toInt with less | equal | greater
  · rw [Int.compare_eq_lt.mpr less]
    exact if_pos (Int64.lt_iff_toInt_lt.mpr less)
  · rw [Int.compare_eq_eq.mpr equal, Int64.toInt_inj.mp equal]
    exact Std.ReflOrd.compare_self
  · have notLess : ¬ i < j := fun less => by
      have := Int64.lt_iff_toInt_lt.mp less
      omega
    have notEqual : i ≠ j := fun equal => by
      rw [equal] at greater
      omega
    rw [Int.compare_eq_gt.mpr greater]
    exact (if_neg notLess).trans (if_neg notEqual)

-- The exact order of integers refines the order of their floats.
private theorem compare_ints (i j : Int64) :
    Ord.compare i j = (Ord.compare (floatOfInt i).rank (floatOfInt j).rank).then (Ord.compare i.toInt j.toInt) := by
  rw [compare_int64]
  rcases Int.lt_trichotomy i.toInt j.toInt with less | equal | greater
  · have places : (floatOfInt i).rank ≤ (floatOfInt j).rank := Binary64.rank_ofInt_mono (Int.le_of_lt less)
    rw [Int.compare_eq_lt.mpr less]
    rcases Int.lt_or_eq_of_le places with apart | tied
    · rw [Int.compare_eq_lt.mpr apart]
      rfl
    · rw [Int.compare_eq_eq.mpr tied]
      rfl
  · rw [Int64.toInt_inj.mp equal]
    simp
  · have places : (floatOfInt j).rank ≤ (floatOfInt i).rank := Binary64.rank_ofInt_mono (Int.le_of_lt greater)
    rw [Int.compare_eq_gt.mpr greater]
    rcases Int.lt_or_eq_of_le places with apart | tied
    · rw [Int.compare_eq_gt.mpr apart]
      rfl
    · rw [Int.compare_eq_eq.mpr tied.symm]
      rfl

private theorem compareNumbers_eq (a b : Value) :
    compareNumbers a b = (Ord.compare a.place b.place).then
      ((Ord.compare a.typeRank b.typeRank).then (Ord.compare a.integer b.integer)) := rfl

private theorem compare_eq_compareNumbers {a b : Value} (left : a.isNumber) (right : b.isNumber) :
    compare a b = compareNumbers a b := by
  have intFirst : Ord.compare 2 3 = .lt := rfl
  have floatLast : Ord.compare 3 2 = .gt := rfl
  rw [compareNumbers_eq]
  cases a with
  | int i =>
    cases b with
    | int j => simp [compare, place, typeRank, integer, compare_ints]
    | float y => simp [compare, place, typeRank, Binary64.compare_eq_compare_rank, intFirst]
    | _ => cases right
  | float x =>
    cases b with
    | int j => simp [compare, place, typeRank, Binary64.compare_eq_compare_rank, floatLast]
    | float y => simp [compare, place, typeRank, integer, Binary64.compare_eq_compare_rank]
    | _ => cases right
  | _ => cases left

private theorem compareNumbers_trans {a b c : Value} (left : a.isNumber) (center : b.isNumber) (right : c.isNumber)
    (ab : (compare a b).isLE) (bc : (compare b c).isLE) : (compare a c).isLE := by
  have order : Std.TransCmp compareNumbers :=
    inferInstanceAs (Std.TransCmp (compareLex (compareOn place) (compareLex (compareOn typeRank) (compareOn integer))))
  rw [compare_eq_compareNumbers left center] at ab
  rw [compare_eq_compareNumbers center right] at bc
  rw [compare_eq_compareNumbers left right]
  exact order.isLE_trans ab bc

private def family : Value → Nat
  | .float _ => 2
  | a => a.typeRank

private theorem compare_of_family_ne {a b : Value} (apart : a.family ≠ b.family) :
    compare a b = Ord.compare a.family b.family := by
  cases a <;> cases b <;> first | exact absurd rfl apart | rfl

private theorem family_le {a b : Value} (le : (compare a b).isLE) : a.family ≤ b.family := by
  by_cases same : a.family = b.family
  · exact Nat.le_of_eq same
  · rw [compare_of_family_ne same] at le
    exact Nat.isLE_compare.mp le

private theorem isLE_of_family_lt {a b : Value} (less : a.family < b.family) : (compare a b).isLE := by
  rw [compare_of_family_ne (Nat.ne_of_lt less)]
  exact Nat.isLE_compare.mpr (Nat.le_of_lt less)

private theorem isNumber_of_family {a : Value} (number : a.family = 2) : a.isNumber := by
  cases a <;> first | rfl | cases number

private theorem instant_trans (s t u : Instant) (st : (Ord.compare s t).isLE) (tu : (Ord.compare t u).isLE) :
    (Ord.compare s u).isLE := by
  have order : Std.TransCmp (compareLex (compareOn Instant.seconds) (compareOn Instant.nanos)) := inferInstance
  exact order.isLE_trans st tu

private theorem isLE_then_iff (o p : Ordering) : (o.then p).isLE ↔ o = .lt ∨ o = .eq ∧ p.isLE := by
  cases o <;> simp [Ordering.then]

private theorem lt_of_isLE_of_ne {a c : Value} (le : (compare a c).isLE) (apart : a ≠ c) : compare a c = .lt := by
  cases order : compare a c with
  | lt => rfl
  | eq => exact absurd ((compare_eq_iff a c).mp order) apart
  | gt =>
    rw [order] at le
    cases le

mutual

theorem compare_trans : (a b c : Value) → (compare a b).isLE → (compare b c).isLE → (compare a c).isLE
  | a, b, c, ab, bc => by
    rcases Nat.lt_or_eq_of_le (Nat.le_trans (family_le ab) (family_le bc)) with apart | together
    · exact isLE_of_family_lt apart
    have middle : b.family = a.family := Nat.le_antisymm (together ▸ family_le bc) (family_le ab)
    by_cases number : a.family = 2
    · exact compareNumbers_trans (isNumber_of_family number) (isNumber_of_family (middle.trans number))
        (isNumber_of_family (together.symm.trans number)) ab bc
    cases a with
    | int => exact absurd rfl number
    | float => exact absurd rfl number
    | null =>
      cases b <;> cases middle
      cases c <;> cases together
      rfl
    | bool _ =>
      cases b <;> cases middle
      cases c <;> cases together
      exact Std.TransOrd.isLE_trans ab bc
    | text _ =>
      cases b <;> cases middle
      cases c <;> cases together
      exact Std.TransOrd.isLE_trans ab bc
    | time _ =>
      cases b <;> cases middle
      cases c <;> cases together
      exact instant_trans _ _ _ ab bc
    | tuple as =>
      cases b <;> cases middle
      cases c <;> cases together
      exact compareItems_trans as _ _ ab bc

theorem compareItems_trans : (as bs cs : List Value) →
    (compareItems as bs).isLE → (compareItems bs cs).isLE → (compareItems as cs).isLE
  | [], _, [], _, _ => rfl
  | [], _, _ :: _, _, _ => rfl
  | _ :: _, [], _, ab, _ => by cases ab
  | _ :: _, _ :: _, [], _, bc => by cases bc
  | a :: as, b :: bs, c :: cs, ab, bc => by
    simp only [compareItems, isLE_then_iff, compare_eq_iff] at ab bc ⊢
    rcases ab with first | ⟨rfl, first⟩
    · rcases bc with second | ⟨rfl, second⟩
      · left
        refine lt_of_isLE_of_ne (compare_trans a b c (by rw [first]; rfl) (by rw [second]; rfl)) ?_
        rintro rfl
        rw [compare_swap, second] at first
        cases first
      · exact .inl first
    · rcases bc with second | ⟨rfl, second⟩
      · exact .inl second
      · exact .inr ⟨rfl, compareItems_trans as bs cs first second⟩

end

instance : Std.TransCmp compare := ⟨compare_trans _ _ _⟩
instance : Std.TransCmp compareItems := ⟨compareItems_trans _ _ _⟩

theorem sort_pairwise (values : List Value) : (sort values).Pairwise fun a b => (compare a b).isLE := by
  refine List.pairwise_mergeSort (fun a b c => compare_trans a b c) (fun a b => ?_) values
  rw [compare_swap b a]
  cases compare a b <;> rfl

theorem sort_perm (values : List Value) : (sort values).Perm values := List.mergeSort_perm values _

theorem eq_sort {values arranged : List Value} (perm : arranged.Perm values)
    (inOrder : arranged.Pairwise fun a b => (compare a b).isLE) : arranged = sort values := by
  refine List.Perm.eq_of_pairwise ?_ inOrder (sort_pairwise values) (perm.trans (sort_perm values).symm)
  intro a b _ _ ab ba
  exact (compare_eq_iff a b).mp (Std.OrientedCmp.isLE_antisymm ab ba)

end DeltaQuery.Value
