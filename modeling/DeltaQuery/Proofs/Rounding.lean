import DeltaQuery.Value
import Mathlib.Order.MinMax

namespace DeltaQuery.Binary64

theorem nearestEven_lower (numerator denominator : Nat) :
    numerator / denominator ≤ nearestEven numerator denominator := by
  unfold nearestEven
  dsimp only
  split
  · exact Nat.le_refl _
  · split <;> omega

theorem nearestEven_upper (numerator denominator : Nat) :
    nearestEven numerator denominator ≤ numerator / denominator + 1 := by
  unfold nearestEven
  dsimp only
  split
  · omega
  · split <;> omega

theorem le_nearestEven {numerator denominator k : Nat} (positive : 0 < denominator)
    (bound : k * denominator ≤ numerator) : k ≤ nearestEven numerator denominator :=
  Nat.le_trans ((Nat.le_div_iff_mul_le positive).mpr bound) (nearestEven_lower _ _)

theorem nearestEven_le {numerator denominator k : Nat} (positive : 0 < denominator)
    (bound : numerator ≤ k * denominator) : nearestEven numerator denominator ≤ k := by
  rcases Nat.lt_or_ge (numerator / denominator) k with below | reached
  · exact Nat.le_trans (nearestEven_upper _ _) below
  · have lower : k * denominator ≤ numerator := (Nat.le_div_iff_mul_le positive).mp reached
    have exact_ : numerator = k * denominator := Nat.le_antisymm bound lower
    subst exact_
    simp [nearestEven, Nat.mul_div_cancel k positive, positive]

theorem nearestEven_mul (k : Nat) {denominator : Nat} (positive : 0 < denominator) :
    nearestEven (k * denominator) denominator = k :=
  Nat.le_antisymm (nearestEven_le positive (Nat.le_refl _)) (le_nearestEven positive (Nat.le_refl _))

theorem nearestEven_mono {low high : Nat} (denominator : Nat) (le : low ≤ high) :
    nearestEven low denominator ≤ nearestEven high denominator := by
  have quotients : low / denominator ≤ high / denominator := Nat.div_le_div_right le
  rcases Nat.lt_or_ge (low / denominator) (high / denominator) with apart | together
  · exact Nat.le_trans (nearestEven_upper _ _) (Nat.le_trans apart (nearestEven_lower _ _))
  · have same : low / denominator = high / denominator := Nat.le_antisymm quotients together
    have rests : low % denominator ≤ high % denominator := by
      have lowParts := Nat.div_add_mod low denominator
      have highParts := Nat.div_add_mod high denominator
      rw [same] at lowParts
      omega
    unfold nearestEven
    dsimp only
    rw [same]
    split <;> split <;> (try split) <;> (try split) <;> omega

private theorem scale_positive {denominator : Nat} (positive : 0 < denominator) (shift : Nat) :
    0 < denominator * 2 ^ shift := Nat.mul_pos positive (Nat.two_pow_pos shift)

-- Before it carries, a significand has 53 bits.
theorem significand_le (numerator : Nat) {denominator : Nat} (positive : 0 < denominator) :
    nearestEven numerator (denominator * 2 ^ ((numerator / denominator).log2 - 52)) ≤ 2 ^ 53 := by
  let quotient := numerator / denominator
  refine nearestEven_le (scale_positive positive _) ?_
  have small : quotient < 2 ^ (quotient.log2 - 52) * 2 ^ 53 := by
    have below : quotient < 2 ^ (quotient.log2 + 1) := Nat.lt_log2_self
    refine Nat.lt_of_lt_of_le below ?_
    rw [← Nat.pow_add]
    exact Nat.pow_le_pow_right (by decide) (by omega)
  have whole : numerator < (quotient + 1) * denominator := by
    have parts := Nat.div_add_mod numerator denominator
    have rest := Nat.mod_lt numerator positive
    calc numerator = denominator * quotient + numerator % denominator := parts.symm
      _ < denominator * quotient + denominator := Nat.add_lt_add_left rest _
      _ = (quotient + 1) * denominator := by rw [Nat.add_mul, Nat.one_mul, Nat.mul_comm]
  calc numerator ≤ (quotient + 1) * denominator := Nat.le_of_lt whole
    _ ≤ (2 ^ (quotient.log2 - 52) * 2 ^ 53) * denominator := Nat.mul_le_mul_right _ small
    _ = 2 ^ 53 * (denominator * 2 ^ (quotient.log2 - 52)) := by ac_rfl

theorem le_significand {numerator denominator : Nat} (positive : 0 < denominator)
    (shifted : 0 < (numerator / denominator).log2 - 52) :
    2 ^ 52 ≤ nearestEven numerator (denominator * 2 ^ ((numerator / denominator).log2 - 52)) := by
  let quotient := numerator / denominator
  refine le_nearestEven (scale_positive positive _) ?_
  have nonzero : quotient ≠ 0 := by
    intro zero
    have none : quotient.log2 = 0 := by rw [zero]; rfl
    have : 0 < quotient.log2 - 52 := shifted
    omega
  have large : 2 ^ 52 * 2 ^ (quotient.log2 - 52) ≤ quotient := by
    rw [← Nat.pow_add]
    have exponent : 52 + (quotient.log2 - 52) = quotient.log2 := by
      have : 0 < quotient.log2 - 52 := shifted
      omega
    rw [exponent]
    exact Nat.log2_self_le nonzero
  calc 2 ^ 52 * (denominator * 2 ^ (quotient.log2 - 52))
      = (2 ^ 52 * 2 ^ (quotient.log2 - 52)) * denominator := by ac_rfl
    _ ≤ quotient * denominator := Nat.mul_le_mul_right _ large
    _ ≤ numerator := Nat.div_mul_le_self _ _

private theorem log2_mono {low high : Nat} (le : low ≤ high) : low.log2 ≤ high.log2 := by
  rcases Nat.eq_zero_or_pos low with zero | positive
  · subst zero
    exact Nat.zero_le _
  · have nonzero : high ≠ 0 := by omega
    exact (Nat.le_log2 nonzero).mpr (Nat.le_trans (Nat.log2_self_le (by omega)) le)

theorem roundedMagnitude_mono {low high denominator : Nat} (positive : 0 < denominator) (le : low ≤ high) :
    roundedMagnitude low denominator ≤ roundedMagnitude high denominator := by
  have quotients : low / denominator ≤ high / denominator := Nat.div_le_div_right le
  have shifts : (low / denominator).log2 - 52 ≤ (high / denominator).log2 - 52 :=
    Nat.sub_le_sub_right (log2_mono quotients) 52
  have lowBound := significand_le low positive
  unfold roundedMagnitude
  dsimp only
  rcases Nat.eq_or_lt_of_le shifts with same | less
  · rw [same]
    have significands := nearestEven_mono (denominator * 2 ^ ((high / denominator).log2 - 52)) le
    exact min_le_min_left _ (Nat.add_le_add_left significands _)
  · -- The lower significand may carry once, and the higher one is a binade up.
    have highBound := @le_significand high denominator positive (Nat.lt_of_le_of_lt (Nat.zero_le _) less)
    refine min_le_min_left _ ?_
    generalize nearestEven low _ = lowSignificand at *
    generalize nearestEven high _ = highSignificand at *
    omega

theorem roundedMagnitude_le (numerator denominator : Nat) :
    roundedMagnitude numerator denominator ≤ infinityMagnitude := Nat.min_le_left _ _

theorem infinityMagnitude_lt : infinityMagnitude < 2 ^ 63 := by decide

theorem magnitude_lt (x : Binary64) : x.magnitude < 2 ^ 63 := Nat.mod_lt _ (by decide)

private theorem toNat_ofMagnitude (negative : Bool) {magnitude : Nat} (small : magnitude < 2 ^ 63) :
    (ofMagnitude negative magnitude).bits.toNat = (if negative then 2 ^ 63 else 0) + magnitude := by
  have word : (if negative then 2 ^ 63 else 0) + magnitude < 2 ^ 64 := by
    cases negative <;> simp <;> omega
  exact UInt64.toNat_ofNat_of_lt' word

theorem magnitude_ofMagnitude (negative : Bool) {magnitude : Nat} (small : magnitude < 2 ^ 63) :
    (ofMagnitude negative magnitude).magnitude = magnitude := by
  unfold Binary64.magnitude
  rw [toNat_ofMagnitude negative small]
  cases negative <;> simp <;> omega

theorem negative_ofMagnitude (negative : Bool) {magnitude : Nat} (small : magnitude < 2 ^ 63) :
    (ofMagnitude negative magnitude).negative = negative := by
  unfold Binary64.negative
  rw [toNat_ofMagnitude negative small]
  cases negative
  · simp only [Bool.false_eq_true, if_false, decide_eq_false_iff_not]
    omega
  · simp

theorem ofMagnitude_negative_magnitude (x : Binary64) : ofMagnitude x.negative x.magnitude = x := by
  apply rank_injective
  unfold rank
  rw [negative_ofMagnitude _ x.magnitude_lt, magnitude_ofMagnitude _ x.magnitude_lt]

theorem rank_ofMagnitude (negative : Bool) {magnitude : Nat} (small : magnitude < 2 ^ 63) :
    (ofMagnitude negative magnitude).rank = if negative then -1 - (magnitude : Int) else magnitude := by
  unfold rank
  rw [negative_ofMagnitude _ small, magnitude_ofMagnitude _ small]

theorem rank_rounded (negative : Bool) (numerator denominator : Nat) :
    (rounded negative numerator denominator).rank =
      if negative then -1 - (roundedMagnitude numerator denominator : Int)
      else roundedMagnitude numerator denominator :=
  rank_ofMagnitude negative (Nat.lt_of_le_of_lt (roundedMagnitude_le _ _) infinityMagnitude_lt)

def ofUnits (units : Int) : Binary64 := rounded (decide (units < 0)) units.natAbs 1

theorem rank_ofUnits_mono {units more : Int} (le : units ≤ more) : (ofUnits units).rank ≤ (ofUnits more).rank := by
  unfold ofUnits
  rw [rank_rounded, rank_rounded]
  by_cases negative : more < 0
  · have bothNegative : units < 0 := by omega
    have magnitudes : roundedMagnitude more.natAbs 1 ≤ roundedMagnitude units.natAbs 1 :=
      roundedMagnitude_mono (by decide) (by omega)
    simp only [negative, bothNegative, decide_true, if_true]
    omega
  · by_cases apart : units < 0
    · simp only [negative, apart, decide_true, decide_false, if_true, Bool.false_eq_true, if_false]
      omega
    · have magnitudes : roundedMagnitude units.natAbs 1 ≤ roundedMagnitude more.natAbs 1 :=
        roundedMagnitude_mono (by decide) (by omega)
      simp only [negative, apart, decide_false, Bool.false_eq_true, if_false]
      omega

theorem unitsPerOne_pos : 0 < unitsPerOne := by
  delta unitsPerOne
  apply Nat.two_pow_pos

theorem ofInt_eq_ofUnits (i : Int) : ofInt i = ofUnits (i * unitsPerOne) := by
  have positive : 0 < (unitsPerOne : Int) := Int.natCast_pos.mpr unitsPerOne_pos
  have sign : i * (unitsPerOne : Int) < 0 ↔ i < 0 := by
    rw [Int.mul_comm]
    refine ⟨fun less => Int.neg_of_mul_neg_right less positive, fun less => ?_⟩
    exact Int.mul_neg_of_pos_of_neg positive less
  unfold ofInt ofUnits
  rw [Int.natAbs_mul, Int.natAbs_natCast, decide_eq_decide.mpr sign]

theorem rank_ofInt_mono {i j : Int} (le : i ≤ j) : (ofInt i).rank ≤ (ofInt j).rank := by
  rw [ofInt_eq_ofUnits, ofInt_eq_ofUnits]
  exact rank_ofUnits_mono (Int.mul_le_mul_of_nonneg_right le (Int.natCast_nonneg _))

theorem isNaN_ofInt (i : Int) : (ofInt i).isNaN = false := by
  have bound := roundedMagnitude_le (i.natAbs * unitsPerOne) 1
  unfold isNaN ofInt rounded
  rw [magnitude_ofMagnitude _ (Nat.lt_of_le_of_lt bound infinityMagnitude_lt)]
  simpa using bound

theorem significand_lt (x : Binary64) : x.significand < 2 ^ 53 := by
  unfold significand
  split <;> omega

theorem units_eq_zero_iff (x : Binary64) : x.units = 0 ↔ x.magnitude = 0 := by
  have power : 0 < 2 ^ x.shift := Nat.two_pow_pos _
  unfold units
  rw [Nat.mul_eq_zero]
  unfold significand
  split <;> omega

theorem shift_of_subnormal {x : Binary64} (subnormal : x.magnitude < 2 ^ 52) : x.shift = 0 := by
  unfold shift
  rw [Nat.div_eq_of_lt subnormal]

theorem units_of_subnormal {x : Binary64} (subnormal : x.magnitude < 2 ^ 52) : x.units = x.magnitude := by
  unfold units significand
  rw [if_pos subnormal, shift_of_subnormal subnormal, Nat.pow_zero, Nat.mul_one]

theorem log2_units (x : Binary64) : x.units.log2 - 52 = x.shift := by
  by_cases subnormal : x.magnitude < 2 ^ 52
  · rw [units_of_subnormal subnormal, shift_of_subnormal subnormal]
    rcases Nat.eq_zero_or_pos x.magnitude with zero | positive
    · rw [zero]
      rfl
    · have below := (Nat.log2_lt (by omega)).mpr subnormal
      omega
  · have leading : 2 ^ 52 ≤ x.significand := by
      unfold significand
      rw [if_neg subnormal]
      omega
    have power : 0 < 2 ^ x.shift := Nat.two_pow_pos _
    have nonzero : x.units ≠ 0 := by
      have positive : 0 < x.significand * 2 ^ x.shift := Nat.mul_pos (by omega) power
      exact Nat.pos_iff_ne_zero.mp positive
    have low : 52 + x.shift ≤ x.units.log2 := by
      rw [Nat.le_log2 nonzero, Nat.pow_add]
      exact Nat.mul_le_mul_right _ leading
    have high : x.units.log2 < 53 + x.shift := by
      rw [Nat.log2_lt nonzero, Nat.pow_add]
      exact Nat.mul_lt_mul_of_pos_right x.significand_lt power
    omega

theorem roundedMagnitude_units {x : Binary64} (finite : x.magnitude < infinityMagnitude) :
    roundedMagnitude x.units 1 = x.magnitude := by
  have whole : x.shift * 2 ^ 52 + x.significand = x.magnitude := by
    unfold shift significand
    split <;> omega
  unfold roundedMagnitude
  dsimp only
  rw [Nat.div_one, log2_units, Nat.one_mul, units, nearestEven_mul _ (Nat.two_pow_pos _), whole]
  omega

theorem signedUnits_zero : (zero false).signedUnits = 0 := by decide

-- Every finite number but -0 is the one nearest to its own units.
theorem ofUnits_signedUnits {x : Binary64} (finite : x.magnitude < infinityMagnitude) (notMinusZero : x ≠ zero true) :
    ofUnits x.signedUnits = x := by
  have size : x.signedUnits.natAbs = x.units := by
    unfold signedUnits
    split <;> omega
  have sign : decide (x.signedUnits < 0) = x.negative := by
    unfold signedUnits
    cases negative : x.negative with
    | false => simp
    | true =>
      have nonzero : x.units ≠ 0 := by
        intro none
        refine notMinusZero ?_
        rw [← ofMagnitude_negative_magnitude x, negative, (units_eq_zero_iff x).mp none]
        rfl
      simp only [if_true, decide_eq_true_eq]
      omega
  unfold ofUnits rounded
  rw [sign, size, roundedMagnitude_units finite, ofMagnitude_negative_magnitude]

theorem add_zero {x : Binary64} (number : x.isNaN = false) (notMinusZero : x ≠ zero true) : x + zero false = x := by
  have passed : passedNaN? x (zero false) = none := by
    have zeroNumber : (zero false).isNaN = false := by decide
    simp [passedNaN?, number, zeroNumber]
  change (passedNaN? x (zero false)).getD (sum x (zero false)) = x
  rw [passed]
  change sum x (zero false) = x
  have zeroFinite : (zero false).isInfinite = false := by decide
  unfold sum
  by_cases infinite : x.isInfinite
  · simp [infinite, zeroFinite]
  · have finite : x.magnitude < infinityMagnitude := by
      simp only [isNaN, isInfinite, decide_eq_false_iff_not, decide_eq_true_eq] at number infinite
      omega
    have same := ofUnits_signedUnits finite notMinusZero
    have positive : (zero false).negative = false := by decide
    simp only [infinite, zeroFinite, signedUnits_zero, Int.add_zero, positive, Bool.and_false, Bool.false_eq_true,
      if_false]
    split
    next none =>
      rw [none] at same
      exact same
    next => exact same

theorem roundedMagnitude_pos {numerator denominator : Nat} (positive : 0 < denominator)
    (large : denominator ≤ numerator) : 0 < roundedMagnitude numerator denominator := by
  have bound : 0 < infinityMagnitude := by decide
  unfold roundedMagnitude
  dsimp only
  refine Nat.lt_min.mpr ⟨bound, ?_⟩
  rcases Nat.eq_zero_or_pos ((numerator / denominator).log2 - 52) with unshifted | shifted
  · have one : 1 ≤ nearestEven numerator denominator := le_nearestEven positive (by rwa [Nat.one_mul])
    rw [unshifted, Nat.pow_zero, Nat.mul_one]
    exact Nat.le_trans one (Nat.le_add_left _ _)
  · exact Nat.lt_of_lt_of_le (Nat.mul_pos shifted (Nat.two_pow_pos _)) (Nat.le_add_right _ _)

theorem ofInt_ne_minusZero (i : Int) : ofInt i ≠ zero true := by
  have bound := roundedMagnitude_le (i.natAbs * unitsPerOne) 1
  have small := Nat.lt_of_le_of_lt bound infinityMagnitude_lt
  intro minusZero
  by_cases negative : i < 0
  · have one : 1 ≤ i.natAbs * unitsPerOne := Nat.mul_pos (by omega) unitsPerOne_pos
    have positive := roundedMagnitude_pos (by decide) one
    have same := congrArg Binary64.magnitude minusZero
    unfold ofInt rounded zero at same
    rw [magnitude_ofMagnitude _ small, magnitude_ofMagnitude _ (by decide)] at same
    omega
  · have same := congrArg Binary64.negative minusZero
    unfold ofInt rounded zero at same
    rw [negative_ofMagnitude _ small, negative_ofMagnitude _ (by decide)] at same
    simp [negative] at same

theorem ofInt_add_zero (i : Int) : ofInt i + zero false = ofInt i :=
  add_zero (isNaN_ofInt i) (ofInt_ne_minusZero i)

end DeltaQuery.Binary64
