namespace DeltaQuery

structure Date where
  year : Int
  month : Nat
  day : Nat
deriving DecidableEq

namespace Calendar

def isLeap (year : Int) : Bool := year % 4 == 0 && (year % 100 != 0 || year % 400 == 0)

def monthLengths (year : Int) : List Nat :=
  [31, if isLeap year then 29 else 28, 31, 30, 31, 30, 31, 31, 30, 31, 30, 31]

def daysBefore (year : Int) : Int :=
  let past := year - 1
  365 * past + past / 4 - past / 100 + past / 400

def epoch : Int := 719162

def isDate (date : Date) : Bool :=
  1 ≤ date.month && 1 ≤ date.day && (monthLengths date.year)[date.month - 1]?.any (date.day ≤ ·)

def dayOf (date : Date) : Int :=
  let monthsPast : Nat := ((monthLengths date.year).take (date.month - 1)).foldl (· + ·) 0
  daysBefore date.year + monthsPast + (date.day - 1) - epoch

-- The year of a day counted from 0001-01-01, by an estimate that is off by one at most.
def yearOf (day : Int) : Int :=
  let guess := day * 400 / 146097 + 1
  if day < daysBefore guess then guess - 1
  else if daysBefore (guess + 1) ≤ day then guess + 1
  else guess

-- Month and day of the month, given the lengths of the months from `month` on.
def monthOf (month day : Nat) : List Nat → Nat × Nat
  | [] => (month, day + 1)
  | length :: rest => if day < length then (month, day + 1) else monthOf (month + 1) (day - length) rest

def dateOf (day : Int) : Date :=
  let day := day + epoch
  let year := yearOf day
  let (month, dayOfMonth) := monthOf 1 (day - daysBefore year).toNat (monthLengths year)
  ⟨year, month, dayOfMonth⟩

end Calendar

end DeltaQuery
