import DeltaQuery.Accumulator.LiveValues
import DeltaQuery.Attempt
import DeltaQuery.Failure
import DeltaQuery.Integer

namespace DeltaQuery

-- Integers and floats are added up apart, so that taking values back leaves the integers exact. When the last float
-- leaves, the float total is reset, so that no rounding of past floats stays behind.
structure Sum where
  integers : Int64 := 0
  floats : Binary64 := .zero false
  floatCount : Nat := 0
  live : LiveValues := {}

namespace Sum

def count (sum : Sum) : Nat := sum.live.size

def total (sum : Sum) : Binary64 := Value.floatOfInt sum.integers + sum.floats

def checkIncorporate (sum : Sum) : Value → Except Cause Unit
  | .int i =>
    match integer? (sum.integers.toInt + i.toInt) with
    | some _ => .ok ()
    | none => .error (.sumOverflow .incorporate i sum.integers)
  | .float _ => .ok ()
  | other => .error (.notSummable .incorporate other)

def plus (sum : Sum) (value : Value) : Sum :=
  let sum := { sum with live := sum.live.insert value }
  match value with
  | .int i => { sum with integers := sum.integers + i }
  | .float x => { sum with floats := sum.floats + x, floatCount := sum.floatCount + 1 }
  | _ => sum

def incorporate (sum : Sum) (value : Value) : Attempt Cause Sum Unit :=
  match sum.checkIncorporate value with
  | .error cause => .failed sum cause
  | .ok () => .done (sum.plus value) ()

-- The values that remain can add up to more than any sum that was ever reached.
def checkRemaining (sum : Sum) : Value → Except Cause Unit
  | .int i =>
    match integer? (sum.integers.toInt - i.toInt) with
    | some _ => .ok ()
    | none => .error (.sumOverflow .undo i sum.integers)
  | _ => .ok ()

def isNumber : Value → Bool
  | .int _ => true
  | .float _ => true
  | _ => false

def checkUndo (sum : Sum) (value : Value) : Except Cause Unit :=
  if !isNumber value then .error (.notSummable .undo value)
  else if sum.live.multiplicity value = 0 then .error (.neverSaw .sum value)
  else sum.checkRemaining value

def minus (sum : Sum) (value : Value) : Sum :=
  let sum := { sum with live := sum.live.erase value }
  match value with
  | .int i => { sum with integers := sum.integers - i }
  | .float x =>
    let floatCount := sum.floatCount - 1
    { sum with floatCount, floats := if floatCount = 0 then .zero false else sum.floats - x }
  | _ => sum

def undo (sum : Sum) (value : Value) : Attempt Cause Sum Unit :=
  match sum.checkUndo value with
  | .error cause => .failed sum cause
  | .ok () => .done (sum.minus value) ()

def current (sum : Sum) : Except Cause Value :=
  if sum.live.isEmpty then .error (.noValues .sum)
  else if sum.floatCount = 0 then .ok (.int sum.integers)
  else .ok (.float sum.total)

def average (sum : Sum) : Except Cause Value :=
  if sum.count = 0 then .error (.noValues .avg)
  else .ok (.float (sum.total / Binary64.ofInt sum.count))

end Sum

end DeltaQuery
