namespace DeltaQuery

-- Powers are those of the core library, whatever others are at hand.
attribute [instance (high), default_instance 20000] instPowNat

-- A finite number is a whole multiple of the least positive one, 2^-1074. Each operation takes its exact result as a
-- quotient of natural numbers in that unit and rounds it once, to nearest and at a tie to even.
structure Binary64 where
  bits : UInt64
deriving DecidableEq

namespace Binary64

def magnitude (x : Binary64) : Nat := x.bits.toNat % 2 ^ 63

def negative (x : Binary64) : Bool := decide (2 ^ 63 ≤ x.bits.toNat)

def ofMagnitude (negative : Bool) (magnitude : Nat) : Binary64 :=
  ⟨UInt64.ofNat ((if negative then 2 ^ 63 else 0) + magnitude)⟩

-- Magnitudes from here on are not finite: this one is infinity, all above it are NaNs.
def infinityMagnitude : Nat := 2047 * 2 ^ 52

def isNaN (x : Binary64) : Bool := decide (infinityMagnitude < x.magnitude)
def isInfinite (x : Binary64) : Bool := decide (x.magnitude = infinityMagnitude)
def isFinite (x : Binary64) : Bool := decide (x.magnitude < infinityMagnitude)
def isZero (x : Binary64) : Bool := decide (x.magnitude = 0)

def zero (negative : Bool) : Binary64 := ofMagnitude negative 0
def infinity (negative : Bool) : Binary64 := ofMagnitude negative infinityMagnitude

-- The NaN an operation without a result gives: sign bit and quiet bit set, no payload.
def indefinite : Binary64 := ofMagnitude true (infinityMagnitude + 2 ^ 51)

-- A NaN operand passes through with its quiet bit set.
def quieted (x : Binary64) : Binary64 :=
  if x.magnitude / 2 ^ 51 % 2 = 1 then x else ⟨UInt64.ofNat (x.bits.toNat + 2 ^ 51)⟩

def significand (x : Binary64) : Nat :=
  if x.magnitude < 2 ^ 52 then x.magnitude else x.magnitude % 2 ^ 52 + 2 ^ 52

def shift (x : Binary64) : Nat := x.magnitude / 2 ^ 52 - 1

def units (x : Binary64) : Nat := x.significand * 2 ^ x.shift

def signedUnits (x : Binary64) : Int := if x.negative then -(x.units : Int) else x.units

def nearestEven (numerator denominator : Nat) : Nat :=
  let quotient := numerator / denominator
  let rest := numerator % denominator
  if 2 * rest < denominator then quotient
  else if denominator < 2 * rest then quotient + 1
  else quotient + quotient % 2

-- The magnitude nearest to numerator / denominator least units. A significand rounded up to 2^53 carries
-- into the exponent by itself, since a magnitude is shift * 2^52 + significand.
def roundedMagnitude (numerator denominator : Nat) : Nat :=
  let shift := (numerator / denominator).log2 - 52
  min infinityMagnitude (shift * 2 ^ 52 + nearestEven numerator (denominator * 2 ^ shift))

def rounded (negative : Bool) (numerator denominator : Nat) : Binary64 :=
  ofMagnitude negative (roundedMagnitude numerator denominator)

def unitsPerOne : Nat := 2 ^ 1074

def ofInt (i : Int) : Binary64 :=
  rounded (decide (i < 0)) (i.natAbs * unitsPerOne) 1

def ofDecimal (negative : Bool) (coefficient : Nat) (exponent : Int) : Binary64 :=
  match exponent with
  | .ofNat e => rounded negative (coefficient * 10 ^ e * unitsPerOne) 1
  | .negSucc e => rounded negative (coefficient * unitsPerOne) (10 ^ (e + 1))

def passedNaN? (x y : Binary64) : Option Binary64 :=
  if x.isNaN then some x.quieted else if y.isNaN then some y.quieted else none

def neg (x : Binary64) : Binary64 := ofMagnitude (!x.negative) x.magnitude

-- Both operands are numbers here. An exact sum of zero is +0 unless both operands are -0.
def sum (x y : Binary64) : Binary64 :=
  if x.isInfinite then
    if y.isInfinite && (x.negative != y.negative) then indefinite else x
  else if y.isInfinite then y
  else
    let total := x.signedUnits + y.signedUnits
    if total = 0 then zero (x.negative && y.negative)
    else rounded (decide (total < 0)) total.natAbs 1

def add (x y : Binary64) : Binary64 := (passedNaN? x y).getD (sum x y)
def sub (x y : Binary64) : Binary64 := (passedNaN? x y).getD (sum x y.neg)

def mul (x y : Binary64) : Binary64 :=
  (passedNaN? x y).getD <|
    let negative := x.negative != y.negative
    if x.isInfinite || y.isInfinite then
      if x.isZero || y.isZero then indefinite else infinity negative
    else rounded negative (x.units * y.units) unitsPerOne

def div (x y : Binary64) : Binary64 :=
  (passedNaN? x y).getD <|
    let negative := x.negative != y.negative
    if x.isInfinite then
      if y.isInfinite then indefinite else infinity negative
    else if y.isInfinite then zero negative
    else if y.isZero then
      if x.isZero then indefinite else infinity negative
    else rounded negative (x.units * unitsPerOne) y.units

instance : Add Binary64 := ⟨add⟩
instance : Sub Binary64 := ⟨sub⟩
instance : Mul Binary64 := ⟨mul⟩
instance : Div Binary64 := ⟨div⟩

-- The place in the total order of bit patterns: numbers by value, -0 below +0, a NaN with its sign bit clear above
-- everything and one with it set below everything.
def rank (x : Binary64) : Int := if x.negative then -1 - (x.magnitude : Int) else x.magnitude

instance : Ord Binary64 := ⟨fun x y => compare x.rank y.rank⟩

theorem compare_eq_compare_rank (x y : Binary64) : compare x y = compare x.rank y.rank := rfl

theorem rank_injective {x y : Binary64} (same : x.rank = y.rank) : x = y := by
  have hx : x.bits.toNat < 2 ^ 64 := x.bits.toNat_lt
  have hy : y.bits.toNat < 2 ^ 64 := y.bits.toNat_lt
  have key : x.bits.toNat = y.bits.toNat := by
    simp only [rank, negative, magnitude, decide_eq_true_eq] at same
    split at same <;> split at same <;> omega
  obtain ⟨xb⟩ := x
  obtain ⟨yb⟩ := y
  simpa using UInt64.toNat_inj.mp key

theorem rank_inj {x y : Binary64} : x.rank = y.rank ↔ x = y := ⟨rank_injective, fun h => h ▸ rfl⟩

end Binary64

end DeltaQuery
