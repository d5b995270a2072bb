import DeltaQuery.Json.Token
import DeltaQuery.Proofs.Rounding

namespace DeltaQuery

namespace Binary64

theorem nearestEven_mul_mul (numerator denominator : Nat) {factor : Nat} (positive : 0 < factor) :
    nearestEven (numerator * factor) (denominator * factor) = nearestEven numerator denominator := by
  unfold nearestEven
  dsimp only
  have scaled (rest : Nat) : 2 * (rest * factor) < denominator * factor ↔ 2 * rest < denominator := by
    rw [← Nat.mul_assoc]
    exact Nat.mul_lt_mul_right positive
  have scaled' (rest : Nat) : denominator * factor < 2 * (rest * factor) ↔ denominator < 2 * rest := by
    rw [← Nat.mul_assoc]
    exact Nat.mul_lt_mul_right positive
  simp only [Nat.mul_div_mul_right _ _ positive, Nat.mul_mod_mul_right, scaled, scaled']

theorem roundedMagnitude_mul_mul (numerator denominator : Nat) {factor : Nat} (positive : 0 < factor) :
    roundedMagnitude (numerator * factor) (denominator * factor) = roundedMagnitude numerator denominator := by
  unfold roundedMagnitude
  dsimp only
  rw [Nat.mul_div_mul_right _ _ positive, Nat.mul_right_comm, nearestEven_mul_mul _ _ positive]

theorem roundedMagnitude_eq_of_mul_eq {numerator denominator numerator' denominator' : Nat} (positive : 0 < denominator)
    (positive' : 0 < denominator') (same : numerator * denominator' = numerator' * denominator) :
    roundedMagnitude numerator denominator = roundedMagnitude numerator' denominator' := by
  rw [← roundedMagnitude_mul_mul numerator denominator positive', same, Nat.mul_comm denominator,
    roundedMagnitude_mul_mul _ _ positive]

theorem ten_pow_pos (exponent : Nat) : 0 < 10 ^ exponent := Nat.pow_pos (by decide)

def decimalMagnitude (coefficient : Nat) (exponent : Int) : Nat :=
  roundedMagnitude (coefficient * 10 ^ exponent.toNat * unitsPerOne) (10 ^ (-exponent).toNat)

theorem ofDecimal_eq_ofMagnitude (negative : Bool) (coefficient : Nat) (exponent : Int) :
    ofDecimal negative coefficient exponent = ofMagnitude negative (decimalMagnitude coefficient exponent) := by
  cases exponent with
  | ofNat e => simp [ofDecimal, decimalMagnitude, rounded]
  | negSucc e => simp [ofDecimal, decimalMagnitude, rounded]

theorem decimalMagnitude_lt (coefficient : Nat) (exponent : Int) : decimalMagnitude coefficient exponent < 2 ^ 63 :=
  Nat.lt_of_le_of_lt (roundedMagnitude_le _ _) infinityMagnitude_lt

theorem magnitude_ofDecimal (negative : Bool) (coefficient : Nat) (exponent : Int) :
    (ofDecimal negative coefficient exponent).magnitude = decimalMagnitude coefficient exponent := by
  rw [ofDecimal_eq_ofMagnitude, magnitude_ofMagnitude _ (decimalMagnitude_lt _ _)]

theorem roundedMagnitude_eq_zero {numerator denominator : Nat} (below : 2 * numerator < denominator) :
    roundedMagnitude numerator denominator = 0 := by
  have quotient : numerator / denominator = 0 := Nat.div_eq_of_lt (by omega)
  have rest : numerator % denominator = numerator := Nat.mod_eq_of_lt (by omega)
  simp [roundedMagnitude, nearestEven, quotient, rest, below]

theorem decimalMagnitude_zero (exponent : Int) : decimalMagnitude 0 exponent = 0 := by
  refine roundedMagnitude_eq_zero ?_
  rw [Nat.zero_mul, Nat.zero_mul]
  exact ten_pow_pos _

theorem decimalMagnitude_mul_pow (coefficient count : Nat) {exponent lower : Int} (lowered : exponent = lower + count) :
    decimalMagnitude (coefficient * 10 ^ count) lower = decimalMagnitude coefficient exponent := by
  refine roundedMagnitude_eq_of_mul_eq (ten_pow_pos _) (ten_pow_pos _) ?_
  have powers : 10 ^ count * 10 ^ lower.toNat * 10 ^ (-exponent).toNat = 10 ^ exponent.toNat * 10 ^ (-lower).toNat := by
    rw [← Nat.pow_add, ← Nat.pow_add, ← Nat.pow_add]
    congr 1
    omega
  generalize unitsPerOne = units
  calc coefficient * 10 ^ count * 10 ^ lower.toNat * units * 10 ^ (-exponent).toNat
      = coefficient * (10 ^ count * 10 ^ lower.toNat * 10 ^ (-exponent).toNat) * units := by ac_rfl
    _ = coefficient * 10 ^ exponent.toNat * units * 10 ^ (-lower).toNat := by rw [powers]; ac_rfl

-- Half of the least float is more than 10^-330, and no float reaches 10^310.
theorem two_mul_unitsPerOne_lt : ∃ places ≤ 330, 2 * unitsPerOne < 10 ^ places :=
  ⟨330, Nat.le_refl _, by decide +kernel⟩

theorem floats_lt_ten_pow : ∃ places ≤ 310, 2 ^ 1024 ≤ 10 ^ places :=
  ⟨310, Nat.le_refl _, by decide +kernel⟩

theorem decimalMagnitude_of_small {coefficient : Nat} {exponent : Int}
    (small : ((Nat.toDigits 10 coefficient).length : Int) + exponent ≤ -330) :
    decimalMagnitude coefficient exponent = 0 := by
  have digits : coefficient < 10 ^ (Nat.toDigits 10 coefficient).length :=
    (Nat.length_toDigits_le_iff (by decide) Nat.length_toDigits_pos).mp (Nat.le_refl _)
  refine roundedMagnitude_eq_zero ?_
  have whole : exponent.toNat = 0 := by omega
  obtain ⟨places, enough, tiny⟩ := two_mul_unitsPerOne_lt
  generalize unitsPerOne = units at *
  generalize (Nat.toDigits 10 coefficient).length = length at *
  calc 2 * (coefficient * 10 ^ exponent.toNat * units)
      = coefficient * (2 * units) := by rw [whole, Nat.pow_zero, Nat.mul_one]; ac_rfl
    _ ≤ 10 ^ length * (2 * units) := Nat.mul_le_mul_right _ (Nat.le_of_lt digits)
    _ < 10 ^ length * 10 ^ places := Nat.mul_lt_mul_of_pos_left tiny (ten_pow_pos _)
    _ = 10 ^ (length + places) := (Nat.pow_add ..).symm
    _ ≤ 10 ^ (-exponent).toNat := Nat.pow_le_pow_right (by decide) (by omega)

theorem roundedMagnitude_eq_infinity {numerator denominator : Nat} (positive : 0 < denominator)
    (above : 2 ^ 1024 * unitsPerOne * denominator ≤ numerator) :
    roundedMagnitude numerator denominator = infinityMagnitude := by
  have least : roundedMagnitude (2 ^ 1024 * unitsPerOne) 1 = infinityMagnitude := by decide +kernel
  refine Nat.le_antisymm (roundedMagnitude_le _ _) ?_
  rw [← least, ← roundedMagnitude_mul_mul _ 1 positive, Nat.one_mul]
  exact roundedMagnitude_mono positive above

theorem decimalMagnitude_of_large {coefficient : Nat} {exponent : Int} (nonzero : coefficient ≠ 0)
    (large : 310 < ((Nat.toDigits 10 coefficient).length : Int) + exponent) :
    decimalMagnitude coefficient exponent = infinityMagnitude := by
  obtain ⟨length, digits⟩ : ∃ length, (Nat.toDigits 10 coefficient).length = length + 1 :=
    ⟨_, (Nat.succ_pred_eq_of_pos Nat.length_toDigits_pos).symm⟩
  have leading : 10 ^ length ≤ coefficient := by
    rcases Nat.eq_zero_or_pos length with one | more
    · rw [one]
      exact Nat.pos_of_ne_zero nonzero
    · have fits := Nat.length_toDigits_le_iff (b := 10) (n := coefficient) (by decide) more
      exact Nat.le_of_not_lt (mt fits.mpr (by omega))
  refine roundedMagnitude_eq_infinity (ten_pow_pos _) ?_
  obtain ⟨places, enough, huge⟩ := floats_lt_ten_pow
  generalize unitsPerOne = units at *
  generalize 2 ^ 1024 = bound at *
  have powers : 10 ^ places * 10 ^ (-exponent).toNat ≤ coefficient * 10 ^ exponent.toNat := calc
    10 ^ places * 10 ^ (-exponent).toNat = 10 ^ (places + (-exponent).toNat) := (Nat.pow_add ..).symm
    _ ≤ 10 ^ (length + exponent.toNat) := Nat.pow_le_pow_right (by decide) (by omega)
    _ = 10 ^ length * 10 ^ exponent.toNat := Nat.pow_add ..
    _ ≤ coefficient * 10 ^ exponent.toNat := Nat.mul_le_mul_right _ leading
  calc bound * units * 10 ^ (-exponent).toNat
      = bound * 10 ^ (-exponent).toNat * units := Nat.mul_right_comm ..
    _ ≤ 10 ^ places * 10 ^ (-exponent).toNat * units := Nat.mul_le_mul_right _ (Nat.mul_le_mul_right _ huge)
    _ ≤ coefficient * 10 ^ exponent.toNat * units := Nat.mul_le_mul_right _ powers

theorem nearestFloat_eq (negative : Bool) (coefficient : Nat) (exponent : Int) :
    Json.nearestFloat negative coefficient exponent = ofDecimal negative coefficient exponent := by
  rw [ofDecimal_eq_ofMagnitude]
  unfold Json.nearestFloat
  dsimp only
  split
  next tiny =>
    rcases tiny with rfl | small
    · rw [decimalMagnitude_zero]
      rfl
    · rw [decimalMagnitude_of_small (by omega)]
      rfl
  next notTiny =>
    split
    next large =>
      rw [decimalMagnitude_of_large (fun zero => notTiny (.inl zero)) large]
      rfl
    next => exact ofDecimal_eq_ofMagnitude ..

theorem digitsValue_toDigits (n : Nat) : Json.digitsValue (Nat.toDigits 10 n) = n := Nat.ofDigitChars_ten_toDigits

theorem digitsValue_append (digits more : List Char) :
    Json.digitsValue (digits ++ more) = 10 ^ more.length * Json.digitsValue digits + Json.digitsValue more := by
  exact (Nat.ofDigitChars_append 0).trans Nat.ofDigitChars_eq_ofDigitChars_zero

theorem digitsValue_append_zeros (digits : List Char) (count : Nat) :
    Json.digitsValue (digits ++ List.replicate count '0') = Json.digitsValue digits * 10 ^ count := by
  have zeros : Json.digitsValue (digits ++ List.replicate count '0') = 10 ^ count * Json.digitsValue digits :=
    (Nat.ofDigitChars_append 0).trans Nat.ofDigitChars_replicate_zero
  rw [zeros, Nat.mul_comm]

theorem digitsValue_zeros_append (count : Nat) (digits : List Char) :
    Json.digitsValue (List.replicate count '0' ++ digits) = Json.digitsValue digits := by
  have zeros : Json.digitsValue (List.replicate count '0') = 0 := Nat.ofDigitChars_replicate_zero
  rw [digitsValue_append, zeros, Nat.mul_zero, Nat.zero_add]

theorem isDigit_of_mem_toDigits {n : Nat} {c : Char} (member : c ∈ Nat.toDigits 10 n) : c.isDigit :=
  Nat.isDigit_of_mem_toDigits (by decide) (by decide) member

theorem head?_toDigits {n : Nat} (nonzero : n ≠ 0) : (Nat.toDigits 10 n).head? ≠ some '0' := by
  induction n using Nat.strongRecOn with
  | ind n ih =>
    rcases Nat.lt_or_ge n 10 with single | more
    · rw [Nat.toDigits_of_lt_base single]
      intro zero
      have code := Nat.toNat_digitChar_of_lt_ten single
      simp only [List.head?_cons, Option.some.injEq] at zero
      rw [zero] at code
      exact nonzero (Nat.add_left_cancel code.symm)
    · have higher := ih (n / 10) (by omega) (by omega)
      rw [Nat.toDigits_of_base_le (by decide) more]
      cases digits : Nat.toDigits 10 (n / 10) with
      | nil => exact absurd digits Nat.toDigits_ne_nil
      | cons first rest => simpa [digits] using higher

-- The text of a decimal is that of a float: its digits say the magnitude, and none of them stands in front for nothing.
structure Spells (decimal : Decimal) (x : Binary64) : Prop where
  digits : ∀ c ∈ decimal.digits, c.isDigit
  leading : decimal.digits.head? ≠ some '0'
  point : decimal.digits = [] → decimal.point = 1
  magnitude : decimalMagnitude (Json.digitsValue decimal.digits) (decimal.point - decimal.digits.length) = x.magnitude

theorem exists_zeros_dropped (digits : List Char) :
    ∃ count, digits = (digits.reverse.dropWhile (· == '0')).reverse ++ List.replicate count '0' := by
  refine ⟨(digits.reverse.takeWhile (· == '0')).length, ?_⟩
  have zeros : (digits.reverse.takeWhile (· == '0')).reverse =
      List.replicate (digits.reverse.takeWhile (· == '0')).length '0' := by
    refine List.eq_replicate_iff.mpr ⟨List.length_reverse, fun c member => ?_⟩
    exact eq_of_beq (List.all_eq_true.mp List.all_takeWhile c (List.mem_reverse.mp member))
  rw [← zeros, ← List.reverse_append, List.takeWhile_append_dropWhile, List.reverse_reverse]

theorem spells_ofScaled {coefficient : Nat} {exponent : Int} {x : Binary64}
    (same : decimalMagnitude coefficient exponent = x.magnitude) (nonzero : coefficient ≠ 0) :
    Spells (Decimal.ofScaled coefficient exponent) x := by
  obtain ⟨count, parts⟩ := exists_zeros_dropped (Nat.toDigits 10 coefficient)
  let kept := ((Nat.toDigits 10 coefficient).reverse.dropWhile (· == '0')).reverse
  have value : Json.digitsValue kept * 10 ^ count = coefficient := by
    rw [← digitsValue_append_zeros, ← parts, digitsValue_toDigits]
  have length : kept.length + count = (Nat.toDigits 10 coefficient).length := by
    conv_rhs => rw [parts]
    simp [kept]
  have some : kept ≠ [] := by
    intro none
    rw [none] at value
    exact nonzero (by simpa [Json.digitsValue] using value.symm)
  refine ⟨fun c member => ?_, fun zero => ?_, fun none => absurd none some, ?_⟩
  · exact isDigit_of_mem_toDigits (parts ▸ List.mem_append_left _ member)
  · refine head?_toDigits nonzero ?_
    rw [parts, List.head?_append]
    exact congrArg (Option.or · _) zero
  · change decimalMagnitude (Json.digitsValue kept) ((Nat.toDigits 10 coefficient).length + exponent - kept.length) = _
    rw [← length, ← same, ← value, decimalMagnitude_mul_pow]
    omega

theorem expansion_eq (x : Binary64) :
    ∃ places : Nat, unitsPerOne = 2 ^ places ∧ x.expansion = (x.units * 5 ^ places, -(places : Int)) :=
  ⟨1074, by rw [unitsPerOne], congrArg (Prod.mk _) (by decide)⟩

theorem decimalMagnitude_expansion {x : Binary64} (finite : x.magnitude < infinityMagnitude) :
    decimalMagnitude x.expansion.1 x.expansion.2 = x.magnitude := by
  obtain ⟨places, unit, expanded⟩ := expansion_eq x
  have scaled : x.units * 5 ^ places * 10 ^ (-(places : Int)).toNat * 2 ^ places * 1 =
      x.units * 10 ^ (-(-(places : Int))).toNat := by
    have whole : (-(places : Int)).toNat = 0 := by omega
    have places' : (-(-(places : Int))).toNat = places := by omega
    rw [whole, places', Nat.pow_zero, Nat.mul_one, Nat.mul_one, Nat.mul_assoc, ← Nat.mul_pow]
  rw [expanded, decimalMagnitude, unit, roundedMagnitude_eq_of_mul_eq (ten_pow_pos _) Nat.one_pos scaled,
    roundedMagnitude_units finite]

theorem readsBack_iff {x : Binary64} {decimal : Nat × Int} :
    readsBack x decimal = true ↔ decimalMagnitude decimal.1 decimal.2 = x.magnitude := by
  rw [readsBack, beq_iff_eq, magnitude_ofDecimal]

-- The shortest decimal is chosen among those that read back, and the exact expansion, which always does, stands in
-- for them.
theorem exists_shortest_eq (tie : Tie) {x : Binary64} (finite : x.magnitude < infinityMagnitude)
    (nonzero : x.isZero = false) : ∃ coefficient exponent,
      x.shortest tie = Decimal.ofScaled coefficient exponent ∧ decimalMagnitude coefficient exponent = x.magnitude := by
  have same : decimalMagnitude (((candidates tie x).find? (readsBack x)).getD x.expansion).1
      (((candidates tie x).find? (readsBack x)).getD x.expansion).2 = x.magnitude := by
    cases found : (candidates tie x).find? (readsBack x) with
    | none =>
      rw [Option.getD_none]
      exact decimalMagnitude_expansion finite
    | some decimal =>
      rw [Option.getD_some]
      exact readsBack_iff.mp (List.find?_some found)
  simp only [shortest, nonzero, Bool.false_eq_true, if_false]
  generalize ((candidates tie x).find? (readsBack x)).getD x.expansion = decimal at same
  exact ⟨decimal.1, decimal.2, rfl, same⟩

theorem spells_shortest (tie : Tie) {x : Binary64} (finite : x.magnitude < infinityMagnitude) :
    Spells (x.shortest tie) x := by
  cases zero : x.isZero with
  | true =>
    have written : x.shortest tie = ⟨[], 1⟩ := by rw [shortest, if_pos zero]
    rw [written]
    refine ⟨nofun, nofun, fun _ => rfl, ?_⟩
    rw [of_decide_eq_true zero]
    exact decimalMagnitude_zero _
  | false =>
    obtain ⟨coefficient, exponent, written, same⟩ := exists_shortest_eq tie finite zero
    rw [written]
    refine spells_ofScaled same fun none => ?_
    rw [none, decimalMagnitude_zero] at same
    exact of_decide_eq_false zero same.symm

end Binary64

end DeltaQuery
