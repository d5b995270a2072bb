import DeltaQuery.Binary64

namespace DeltaQuery

-- The decimal 0.d₁d₂d₃… * 10^point; the last digit is not zero, and zero has no digits.
structure Decimal where
  digits : List Char
  point : Int

namespace Decimal

def ofScaled (coefficient : Nat) (exponent : Int) : Decimal :=
  let digits := Nat.toDigits 10 coefficient
  { digits := (digits.reverse.dropWhile (· == '0')).reverse, point := digits.length + exponent }

end Decimal

inductive Tie
  | up
  | even
deriving DecidableEq

def Tie.roundsUp (tie : Tie) (below rest denominator : Nat) : Bool :=
  match compare (2 * rest) denominator with
  | .lt => false
  | .gt => true
  | .eq => tie == .up || below % 2 == 1

namespace Binary64

-- The point of a quotient q > 0: 10^(point - 1) ≤ q < 10^point.
def decimalPoint (numerator denominator : Nat) : Int :=
  if denominator ≤ numerator then (Nat.toDigits 10 (numerator / denominator)).length
  else 1 - (Nat.toDigits 10 ((denominator - 1) / numerator)).length

def neighbours (tie : Tie) (numerator denominator : Nat) (exponent : Int) : List (Nat × Int) :=
  let numerator := numerator * 10 ^ (-exponent).toNat
  let denominator := denominator * 10 ^ exponent.toNat
  let below := numerator / denominator
  if tie.roundsUp below (numerator % denominator) denominator then
    [(below + 1, exponent), (below, exponent)]
  else
    [(below, exponent), (below + 1, exponent)]

def candidates (tie : Tie) (x : Binary64) : List (Nat × Int) :=
  let point := decimalPoint x.units unitsPerOne
  (List.range 17).flatMap fun n : Nat => neighbours tie x.units unitsPerOne (point - (n + 1))

def readsBack (x : Binary64) (decimal : Nat × Int) : Bool :=
  (ofDecimal false decimal.1 decimal.2).magnitude == x.magnitude

-- Every finite number has a finite decimal expansion, since 1/2 is 5/10.
def expansion (x : Binary64) : Nat × Int := (x.units * 5 ^ 1074, -1074)

-- Of all decimals that read back as the number, one with the fewest digits and of those the nearest. If a point of a
-- decimal grid reads back, so does one of the two neighbours of the number on it, so no other is tried.
def shortest (tie : Tie) (x : Binary64) : Decimal :=
  if x.isZero then ⟨[], 1⟩
  else
    let (coefficient, exponent) := ((candidates tie x).find? (readsBack x)).getD (expansion x)
    Decimal.ofScaled coefficient exponent

end Binary64

-- How the digits of a number are set: bounds on the exponents of positional notation, and what a whole number and an
-- exponent look like.
structure Layout where
  tie : Tie
  positionalFrom : Option Int
  positionalUpTo : Option Int
  wholePoint : Bool
  plusSign : Bool

namespace Layout

def isPositional (layout : Layout) (exponent : Int) : Bool :=
  layout.positionalFrom.all (· ≤ exponent) && layout.positionalUpTo.all (exponent ≤ ·)

def zeros (count : Int) : List Char := List.replicate count.toNat '0'

def positional (layout : Layout) (decimal : Decimal) : List Char :=
  let whole := decimal.digits.take decimal.point.toNat
  let whole := whole ++ zeros (decimal.point - whole.length)
  let fraction := decimal.digits.drop decimal.point.toNat
  let fraction := if fraction.isEmpty then [] else zeros (-decimal.point) ++ fraction
  (if whole.isEmpty then ['0'] else whole) ++
    if fraction.isEmpty then (if layout.wholePoint then ['.', '0'] else []) else '.' :: fraction

def scientific (layout : Layout) (decimal : Decimal) (exponent : Int) : List Char :=
  let sign := if exponent < 0 then ['-'] else if layout.plusSign then ['+'] else []
  decimal.digits.take 1 ++
    (if decimal.digits.length ≤ 1 then [] else '.' :: decimal.digits.drop 1) ++
    'e' :: sign ++ Nat.toDigits 10 exponent.natAbs

def unsigned (layout : Layout) (decimal : Decimal) : List Char :=
  let exponent := decimal.point - 1
  if layout.isPositional exponent then layout.positional decimal
  else layout.scientific decimal exponent

end Layout

namespace Binary64

-- The text of a number in a layout. NaNs have one text, whatever their sign and payload.
def text (layout : Layout) (x : Binary64) : String :=
  if x.isNaN then "NaN"
  else
    let body := if x.isInfinite then ['i', 'n', 'f'] else layout.unsigned (x.shortest layout.tie)
    String.ofList (if x.negative then '-' :: body else body)

end Binary64

end DeltaQuery
