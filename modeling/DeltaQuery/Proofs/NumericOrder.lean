import DeltaQuery.Function.Apply
import DeltaQuery.Proofs.ValueOrder
import Mathlib.Algebra.Order.Field.Basic
import Mathlib.Data.Rat.Cast.Order
import Mathlib.Order.Compare
import Mathlib.Tactic.NormNum

namespace DeltaQuery

namespace Binary64

variable {x : Binary64} {i : Int}

def toRat (x : Binary64) : ℚ := x.signedUnits / unitsPerOne

theorem cast_lt_toRat_iff : (i : ℚ) < x.toRat ↔ i * unitsPerOne < x.signedUnits := by
  have positive : (0 : ℚ) < unitsPerOne := Nat.cast_pos.mpr unitsPerOne_pos
  rw [toRat, lt_div_iff₀ positive]
  exact_mod_cast Iff.rfl

theorem toRat_lt_cast_iff : x.toRat < i ↔ x.signedUnits < i * unitsPerOne := by
  have positive : (0 : ℚ) < unitsPerOne := Nat.cast_pos.mpr unitsPerOne_pos
  rw [toRat, div_lt_iff₀ positive]
  exact_mod_cast Iff.rfl

theorem toRat_eq_cast_iff : x.toRat = i ↔ x.signedUnits = i * unitsPerOne := by
  rw [eq_iff_le_not_lt, ← not_lt, cast_lt_toRat_iff, toRat_lt_cast_iff, eq_iff_le_not_lt, ← not_lt]

theorem signedUnits_minusZero : (zero true).signedUnits = 0 := by decide

theorem rank_minusZero : (zero true).rank = -1 := by decide

theorem rank_ofInt (i : Int) :
    (ofInt i).rank = if i < 0 then -1 - (roundedMagnitude (i.natAbs * unitsPerOne) 1 : Int)
      else roundedMagnitude (i.natAbs * unitsPerOne) 1 := by
  rw [ofInt, rank_rounded]
  by_cases negative : i < 0 <;> simp [negative]

theorem rank_ofInt_le (finite : x.isFinite) (less : (i : ℚ) < x.toRat) : (ofInt i).rank ≤ x.rank := by
  rw [cast_lt_toRat_iff] at less
  by_cases minusZero : x = zero true
  · subst minusZero
    rw [signedUnits_minusZero] at less
    have negative : i < 0 := by
      rw [Int.mul_comm] at less
      exact Int.neg_of_mul_neg_right less (Int.natCast_pos.mpr unitsPerOne_pos)
    rw [rank_ofInt, if_pos negative, rank_minusZero]
    omega
  · have itself := ofUnits_signedUnits (of_decide_eq_true finite) minusZero
    rw [ofInt_eq_ofUnits, ← congrArg rank itself]
    exact rank_ofUnits_mono (Int.le_of_lt less)

theorem le_rank_ofInt (finite : x.isFinite) (greater : x.toRat < i) : x.rank ≤ (ofInt i).rank := by
  rw [toRat_lt_cast_iff] at greater
  by_cases minusZero : x = zero true
  · subst minusZero
    rw [signedUnits_minusZero] at greater
    have positive : ¬ i < 0 := by
      intro negative
      have below := Int.mul_neg_of_neg_of_pos negative (Int.natCast_pos.mpr unitsPerOne_pos)
      omega
    rw [rank_ofInt, if_neg positive, rank_minusZero]
    omega
  · have itself := ofUnits_signedUnits (of_decide_eq_true finite) minusZero
    rw [ofInt_eq_ofUnits, ← congrArg rank itself]
    exact rank_ofUnits_mono (Int.le_of_lt greater)

-- An integer that a float is equal to rounds to that float, if it is not -0.
theorem ofInt_of_toRat (finite : x.isFinite) (same : x.toRat = i) : ofInt i = x ∨ i = 0 ∧ x = zero true := by
  rw [toRat_eq_cast_iff] at same
  by_cases minusZero : x = zero true
  · subst minusZero
    rw [signedUnits_minusZero, eq_comm, Int.mul_eq_zero] at same
    have nonzero : (unitsPerOne : Int) ≠ 0 := Int.natCast_ne_zero.mpr (Nat.pos_iff_ne_zero.mp unitsPerOne_pos)
    exact .inr ⟨same.resolve_right nonzero, rfl⟩
  · left
    rw [ofInt_eq_ofUnits, ← same, ofUnits_signedUnits (of_decide_eq_true finite) minusZero]

-- The order by the nearest float is that of the numbers, but for an integer that is no float itself, against the very
-- float it is rounded to, and for 0 against -0.
theorem compare_ofInt_iff (finite : x.isFinite) :
    compare (ofInt i) x = cmp (i : ℚ) x.toRat ↔ ¬(x = ofInt i ∧ x.toRat ≠ i) ∧ ¬(i = 0 ∧ x = zero true) := by
  rw [compare_eq_compare_rank]
  constructor
  · intro right
    refine ⟨?_, ?_⟩
    · rintro ⟨rfl, apart⟩
      rw [Std.ReflOrd.compare_self, eq_comm, cmp_eq_eq_iff] at right
      exact apart right.symm
    · rintro ⟨rfl, rfl⟩
      have equal : cmp ((0 : Int) : ℚ) (zero true).toRat = .eq := by
        rw [cmp_eq_eq_iff, eq_comm, toRat_eq_cast_iff, signedUnits_minusZero, Int.zero_mul]
      rw [equal, rank_minusZero, Int.compare_eq_eq, rank_ofInt, if_neg (Int.lt_irrefl 0)] at right
      omega
  · rintro ⟨unrounded, notZeros⟩
    rcases lt_trichotomy (i : ℚ) x.toRat with less | same | greater
    · have apart : (ofInt i).rank ≠ x.rank := fun tied => unrounded ⟨(rank_injective tied).symm, less.ne'⟩
      rw [(cmp_eq_lt_iff _ _).mpr less, Int.compare_eq_lt]
      exact lt_of_le_of_ne (rank_ofInt_le finite less) apart
    · rcases ofInt_of_toRat finite same.symm with itself | zeros
      · rw [(cmp_eq_eq_iff _ _).mpr same, itself, Int.compare_eq_eq]
      · exact absurd zeros notZeros
    · have apart : x.rank ≠ (ofInt i).rank := fun tied => unrounded ⟨rank_injective tied, greater.ne⟩
      rw [(cmp_eq_gt_iff _ _).mpr greater, Int.compare_eq_gt]
      exact lt_of_le_of_ne (le_rank_ofInt finite greater) apart

theorem units_ofMagnitude (negative : Bool) {significand shift : Nat} (leading : 2 ^ 52 ≤ significand)
    (few : significand < 2 ^ 53) (small : shift < 2046) :
    (ofMagnitude negative (shift * 2 ^ 52 + significand)).units = significand * 2 ^ shift := by
  have magnitude := magnitude_ofMagnitude negative (show shift * 2 ^ 52 + significand < 2 ^ 63 by omega)
  unfold units Binary64.significand Binary64.shift
  rw [magnitude, if_neg (by omega)]
  have rest : (shift * 2 ^ 52 + significand) % 2 ^ 52 + 2 ^ 52 = significand := by omega
  have quotient : (shift * 2 ^ 52 + significand) / 2 ^ 52 - 1 = shift := by omega
  rw [rest, quotient]

theorem exists_magnitude {m e : Nat} (few : m < 2 ^ 53) (low : 52 ≤ e) (high : e ≤ 2000) :
    ∃ magnitude < infinityMagnitude, ∀ negative, (ofMagnitude negative magnitude).units = m * 2 ^ e := by
  rcases Nat.eq_zero_or_pos m with rfl | positive
  · refine ⟨0, by decide, fun negative => ?_⟩
    rw [Nat.zero_mul, units_eq_zero_iff, magnitude_ofMagnitude negative (by decide)]
  · have bits : m.log2 ≤ 52 := Nat.le_of_lt_succ ((Nat.log2_lt (by omega)).mpr few)
    have leading : 2 ^ 52 ≤ m * 2 ^ (52 - m.log2) := by
      calc 2 ^ 52 = 2 ^ m.log2 * 2 ^ (52 - m.log2) := by rw [← Nat.pow_add, Nat.add_sub_cancel' bits]
        _ ≤ m * 2 ^ (52 - m.log2) := Nat.mul_le_mul_right _ (Nat.log2_self_le (by omega))
    have shifted : m * 2 ^ (52 - m.log2) < 2 ^ 53 := by
      calc m * 2 ^ (52 - m.log2) < 2 ^ (m.log2 + 1) * 2 ^ (52 - m.log2) :=
            Nat.mul_lt_mul_of_pos_right Nat.lt_log2_self (Nat.two_pow_pos _)
        _ = 2 ^ 53 := by rw [← Nat.pow_add, Nat.add_right_comm, Nat.add_sub_cancel' bits]
    have exponents : 52 - m.log2 + (e - (52 - m.log2)) = e := by omega
    refine ⟨(e - (52 - m.log2)) * 2 ^ 52 + m * 2 ^ (52 - m.log2), ?_, fun negative => ?_⟩
    · unfold infinityMagnitude
      omega
    · rw [units_ofMagnitude negative leading shifted (by omega), Nat.mul_assoc, ← Nat.pow_add, exponents]

-- One is a power of two least units; as a variable, the exponent is not evaluated.
theorem unitsPerOne_power : ∃ one, one = 1074 ∧ unitsPerOne = 2 ^ one := by
  delta unitsPerOne
  exact ⟨_, rfl, rfl⟩

theorem signedUnits_ofInt {m e : Nat} (shape : i.natAbs = m * 2 ^ e) (few : m < 2 ^ 53) (small : e ≤ 900) :
    (ofInt i).signedUnits = i * unitsPerOne := by
  obtain ⟨one, exponent, power⟩ := unitsPerOne_power
  obtain ⟨magnitude, finite, units⟩ := @exists_magnitude m (e + one) few (by omega) (by omega)
  rw [Nat.pow_add, ← power, ← Nat.mul_assoc, ← shape] at units
  have bounded : magnitude < 2 ^ 63 := Nat.lt_trans finite infinityMagnitude_lt
  have itself : ofInt i = ofMagnitude (decide (i < 0)) magnitude := by
    have same := magnitude_ofMagnitude (decide (i < 0)) bounded
    unfold ofInt rounded
    rw [← units (decide (i < 0)), roundedMagnitude_units (same.symm ▸ finite), same]
  unfold signedUnits
  rw [itself, negative_ofMagnitude _ bounded, units, Int.natCast_mul]
  by_cases negative : i < 0
  · have size : (i.natAbs : Int) = -i := by omega
    rw [decide_eq_true negative, if_pos rfl, size, Int.neg_mul, Int.neg_neg]
  · have size : (i.natAbs : Int) = i := by omega
    rw [decide_eq_false negative, if_neg Bool.false_ne_true, size]

theorem bits_of_signedUnits (whole : x.signedUnits = i * unitsPerOne) : ∃ m e, i.natAbs = m * 2 ^ e ∧ m < 2 ^ 53 := by
  have units : x.significand * 2 ^ x.shift = i.natAbs * unitsPerOne := by
    have size : x.signedUnits.natAbs = x.units := by
      unfold signedUnits
      split <;> omega
    rw [whole, Int.natAbs_mul, Int.natAbs_natCast] at size
    exact size.symm
  obtain ⟨one, exponent, power⟩ := unitsPerOne_power
  rw [power] at units
  rcases Nat.le_total one x.shift with more | less
  · refine ⟨x.significand, x.shift - one, ?_, x.significand_lt⟩
    refine Nat.eq_of_mul_eq_mul_right (Nat.two_pow_pos one) ?_
    rw [← units, Nat.mul_assoc, ← Nat.pow_add, Nat.sub_add_cancel more]
  · have shrunk : x.significand = i.natAbs * 2 ^ (one - x.shift) := by
      refine Nat.eq_of_mul_eq_mul_right (Nat.two_pow_pos x.shift) ?_
      rw [units, Nat.mul_assoc, ← Nat.pow_add, Nat.sub_add_cancel less]
    refine ⟨i.natAbs, 0, (Nat.mul_one _).symm, Nat.lt_of_le_of_lt ?_ x.significand_lt⟩
    rw [shrunk]
    exact Nat.le_mul_of_pos_right _ (Nat.two_pow_pos _)

end Binary64

-- Whether a comparison is true of two numbers.
def Comparison.holds : Comparison → ℚ → ℚ → Bool
  | .eq, a, b => a = b
  | .notEq, a, b => a ≠ b
  | .lt, a, b => a < b
  | .ltEq, a, b => a ≤ b
  | .gt, a, b => b < a
  | .gtEq, a, b => b ≤ a

theorem Comparison.accepts_cmp (comparison : Comparison) (a b : ℚ) : comparison.accepts (cmp a b) = comparison.holds a b := by
  rcases lt_trichotomy a b with less | same | greater
  · rw [(cmp_eq_lt_iff a b).mpr less]
    cases comparison <;> simp [accepts, holds, less, less.ne, less.le, less.not_gt, less.not_ge]
  · rw [(cmp_eq_eq_iff a b).mpr same]
    cases comparison <;> simp [accepts, holds, same]
  · rw [(cmp_eq_gt_iff a b).mpr greater]
    cases comparison <;> simp [accepts, holds, greater, greater.ne', greater.le, greater.not_gt, greater.not_ge]

theorem Comparison.accepts_inj {order other : Ordering}
    (same : ∀ comparison : Comparison, comparison.accepts order = comparison.accepts other) : order = other := by
  have less := same .lt
  have equal := same .eq
  cases order <;> cases other <;> simp_all [accepts]

theorem Comparison.accepts_eq_holds_iff {order : Ordering} {a b : ℚ} :
    (∀ comparison : Comparison, comparison.accepts order = comparison.holds a b) ↔ order = cmp a b := by
  constructor
  · intro right
    exact accepts_inj fun comparison => (right comparison).trans (comparison.accepts_cmp a b).symm
  · rintro rfl comparison
    exact comparison.accepts_cmp a b

namespace Value

open Binary64

variable {i : Int64} {x : Binary64}

theorem apply_int_float (comparison : Comparison) (i : Int64) (x : Binary64) :
    Function.apply (.compare comparison) [.int i, .float x] =
      .ok (.bool (comparison.accepts (Ord.compare (floatOfInt i) x))) := rfl

theorem apply_float_int (comparison : Comparison) (i : Int64) (x : Binary64) :
    Function.apply (.compare comparison) [.float x, .int i] =
      .ok (.bool (comparison.accepts (Ord.compare x (floatOfInt i)))) := rfl

theorem comparisons_right_iff :
    (∀ comparison : Comparison,
      Function.apply (.compare comparison) [.int i, .float x] = .ok (.bool (comparison.holds i.toInt x.toRat)) ∧
      Function.apply (.compare comparison) [.float x, .int i] = .ok (.bool (comparison.holds x.toRat i.toInt))) ↔
      Ord.compare (floatOfInt i) x = cmp (i.toInt : ℚ) x.toRat := by
  constructor
  · intro right
    refine Comparison.accepts_eq_holds_iff.mp fun comparison => ?_
    have told := (right comparison).1
    rw [apply_int_float] at told
    exact Value.bool.inj (Except.ok.inj told)
  · intro order comparison
    have swapped : Ord.compare x (floatOfInt i) = cmp x.toRat (i.toInt : ℚ) := by
      rw [← cmp_swap, ← order, compare_eq_compare_rank, compare_eq_compare_rank]
      exact Std.OrientedOrd.eq_swap
    rw [apply_int_float, apply_float_int, Comparison.accepts_eq_holds_iff.mpr order comparison,
      Comparison.accepts_eq_holds_iff.mpr swapped comparison]
    exact ⟨rfl, rfl⟩

theorem compare_int_float_iff (finite : x.isFinite) (apart : x.toRat ≠ i.toInt) :
    compare (.int i) (.float x) = cmp (i.toInt : ℚ) x.toRat ↔ ¬(x = floatOfInt i ∧ x.toRat < i.toInt) := by
  change (Ord.compare (floatOfInt i) x).then .lt = _ ↔ _
  by_cases tied : x = floatOfInt i
  · have first : (Ord.compare (floatOfInt i) x).then .lt = .lt := by
      rw [← tied, compare_eq_compare_rank, Std.ReflOrd.compare_self]
      rfl
    rw [first, eq_comm, cmp_eq_lt_iff, not_and, forall_prop_of_true tied, not_lt]
    exact ⟨le_of_lt, fun le => lt_of_le_of_ne le apart.symm⟩
  · have notZeros : ¬(i.toInt = 0 ∧ x = zero true) := by
      rintro ⟨none, rfl⟩
      refine apart (toRat_eq_cast_iff.mpr ?_)
      rw [none, signedUnits_minusZero, Int.zero_mul]
    have right : Ord.compare (floatOfInt i) x = cmp (i.toInt : ℚ) x.toRat :=
      (compare_ofInt_iff finite).mpr ⟨fun rounded => tied rounded.1, notZeros⟩
    have settled : cmp (i.toInt : ℚ) x.toRat ≠ .eq := fun equal => apart ((cmp_eq_eq_iff _ _).mp equal).symm
    rw [right]
    refine iff_of_true ?_ fun rounded => tied rounded.1
    cases order : cmp (i.toInt : ℚ) x.toRat with
    | eq => exact absurd order settled
    | _ => rfl

theorem toRat_floatOfInt_iff : (floatOfInt i).toRat = i.toInt ↔ ∃ m e, i.toInt.natAbs = m * 2 ^ e ∧ m < 2 ^ 53 := by
  rw [toRat_eq_cast_iff]
  refine ⟨bits_of_signedUnits, ?_⟩
  rintro ⟨m, e, shape, few⟩
  rcases Nat.eq_zero_or_pos m with rfl | positive
  · exact signedUnits_ofInt (e := 0) (shape.trans (by simp)) few (Nat.zero_le _)
  · have power : 2 ^ e ≤ 2 ^ 63 := by
      have least := i.le_toInt
      have most := i.toInt_lt
      have size : 2 ^ e ≤ m * 2 ^ e := Nat.le_mul_of_pos_left _ positive
      omega
    exact signedUnits_ofInt shape few (Nat.le_trans ((Nat.pow_le_pow_iff_right (by decide)).mp power) (by decide))

-- For every integer and every finite float: the six comparisons, in either order of the arguments, all tell the truth of
-- the two numbers exactly if the float is not one that the integer is rounded to, and they are not 0 and -0. Where the
-- numbers differ, the order of values is theirs exactly if the float is not one that the integer is rounded down to. An
-- integer is not rounded exactly if it has at most 53 significant bits.
theorem integers_against_floats (i : Int64) (x : Binary64) (finite : x.isFinite) :
    ((∀ comparison : Comparison,
      Function.apply (.compare comparison) [.int i, .float x] = .ok (.bool (comparison.holds i.toInt x.toRat)) ∧
      Function.apply (.compare comparison) [.float x, .int i] = .ok (.bool (comparison.holds x.toRat i.toInt))) ↔
      ¬(x = floatOfInt i ∧ x.toRat ≠ i.toInt) ∧ ¬(i.toInt = 0 ∧ x = zero true)) ∧
    (x.toRat ≠ i.toInt →
      ((compare (.int i) (.float x) = cmp (i.toInt : ℚ) x.toRat ∧
        compare (.float x) (.int i) = cmp x.toRat (i.toInt : ℚ)) ↔ ¬(x = floatOfInt i ∧ x.toRat < i.toInt))) ∧
    ((floatOfInt i).toRat = i.toInt ↔ ∃ m e, i.toInt.natAbs = m * 2 ^ e ∧ m < 2 ^ 53) := by
  refine ⟨comparisons_right_iff.trans (compare_ofInt_iff finite), ?_, toRat_floatOfInt_iff⟩
  intro apart
  rw [← compare_int_float_iff finite apart]
  refine and_iff_left_of_imp fun right => ?_
  rw [compare_swap, right, cmp_swap]

theorem integers_against_floats_half :
    (⟨0x4004000000000000⟩ : Binary64).isFinite ∧ (⟨0x4004000000000000⟩ : Binary64).toRat = 5 / 2 ∧
    (∀ comparison : Comparison,
      Function.apply (.compare comparison) [.int 2, .float ⟨0x4004000000000000⟩] = .ok (.bool (comparison.holds 2 (5 / 2))) ∧
      Function.apply (.compare comparison) [.float ⟨0x4004000000000000⟩, .int 2] =
        .ok (.bool (comparison.holds (5 / 2) 2))) ∧
    compare (.int 2) (.float ⟨0x4004000000000000⟩) = .lt ∧ compare (.float ⟨0x4004000000000000⟩) (.int 2) = .gt := by
  have finite : (⟨0x4004000000000000⟩ : Binary64).isFinite := by decide
  have number : (⟨0x4004000000000000⟩ : Binary64).toRat = 5 / 2 := by
    have doubled : (⟨0x4004000000000000⟩ : Binary64).signedUnits * 2 = 5 * unitsPerOne := by decide +kernel
    have positive : (unitsPerOne : ℚ) ≠ 0 := Nat.cast_ne_zero.mpr (Nat.pos_iff_ne_zero.mp unitsPerOne_pos)
    rw [toRat, div_eq_div_iff positive two_ne_zero]
    exact_mod_cast doubled
  have apart : (⟨0x4004000000000000⟩ : Binary64) ≠ floatOfInt 2 := by decide +kernel
  have two : (Int64.toInt 2 : ℚ) = 2 := rfl
  obtain ⟨comparisons, orders, _⟩ := integers_against_floats 2 ⟨0x4004000000000000⟩ finite
  rw [number, two] at comparisons orders
  obtain ⟨forward, backward⟩ := (orders (by norm_num)).mpr fun rounded => apart rounded.1
  refine ⟨finite, number, comparisons.mpr ⟨fun rounded => apart rounded.1, fun zeros => by cases zeros.1⟩, ?_, ?_⟩
  · rw [forward, cmp_eq_lt_iff]
    norm_num
  · rw [backward, cmp_eq_gt_iff]
    norm_num

-- An integer that is rounded equals a smaller float and comes before it, and 0 does not equal -0.
theorem rounded_integer_misplaced :
    (⟨0x4340000000000000⟩ : Binary64).isFinite ∧ (⟨0x4340000000000000⟩ : Binary64).toRat < (9007199254740993 : Int) ∧
      Function.apply (.compare .eq) [.int 9007199254740993, .float ⟨0x4340000000000000⟩] = .ok (.bool true) ∧
      compare (.int 9007199254740993) (.float ⟨0x4340000000000000⟩) = .lt ∧
      (zero true).isFinite ∧ (zero true).toRat = (0 : Int) ∧
      Function.apply (.compare .eq) [.int 0, .float (zero true)] = .ok (.bool false) := by
  rw [toRat_lt_cast_iff, toRat_eq_cast_iff]
  decide +kernel

end Value

end DeltaQuery
