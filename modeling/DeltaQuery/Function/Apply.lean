import DeltaQuery.Failure
import DeltaQuery.Integer

namespace DeltaQuery

namespace Comparison

def byNumber (left right : Value) : Except Cause Ordering :=
  match left.toFloat?, right.toFloat? with
  | some a, some b => .ok (compare a b)
  | _, _ => .error .noNumber

-- Integers and floats are compared as floats, other values only within their type.
def order (left right : Value) : Except Cause Ordering :=
  match left, right with
  | .int _, .float _ => byNumber left right
  | .float _, .int _ => byNumber left right
  | left, right =>
    if left.typeRank = right.typeRank then .ok (compare left right) else .error (.notComparable left right)

def apply (comparison : Comparison) (left right : Value) : Except Cause Value :=
  if left.isNull || right.isNull then .ok .null
  else
    match order left right with
    | .error cause => .error cause
    | .ok order => .ok (.bool (comparison.accepts order))

end Comparison

namespace Arithmetic

def exact : Arithmetic → Int → Int → Int
  | .add, a, b => a + b
  | .sub, a, b => a - b
  | .mul, a, b => a * b
  | .div, a, b => a.tdiv b

def ofIntegers (operation : Arithmetic) (a b : Int64) : Except Cause Value :=
  if operation = .div ∧ b = 0 then .error (.integerDivisionByZero a b)
  else
    match integer? (operation.exact a.toInt b.toInt) with
    | some result => .ok (.int result)
    | none => .error (.integerOverflow operation a b)

def rounded : Arithmetic → Binary64 → Binary64 → Binary64
  | .add, a, b => a + b
  | .sub, a, b => a - b
  | .mul, a, b => a * b
  | .div, a, b => a / b

def ofFloats (operation : Arithmetic) (a b : Binary64) : Except Cause Value :=
  if operation = .div ∧ b.isZero then .error (.floatDivisionByZero a b)
  else .ok (.float (operation.rounded a b))

-- Of two operands that are no numbers the left one is blamed.
def apply (operation : Arithmetic) (left right : Value) : Except Cause Value :=
  match left, right with
  | .null, _ => .ok .null
  | _, .null => .ok .null
  | .int a, .int b => operation.ofIntegers a b
  | left, right =>
    match left.toFloat?, right.toFloat? with
    | some a, some b => operation.ofFloats a b
    | none, _ => .error (.notDefinedFor operation.name left)
    | _, none => .error (.notDefinedFor operation.name right)

end Arithmetic

namespace Function

def negation : Value → Except Cause Value
  | .null => .ok .null
  | .bool b => .ok (.bool !b)
  | other => .error (.notDefinedFor Function.not.name other)

def onText (function : Function) (change : String → String) : Value → Except Cause Value
  | .null => .ok .null
  | .text s => .ok (.text (change s))
  | other => .error (.notDefinedFor function.name other)

def timestamp : Value → Except Cause Value
  | .null => .ok .null
  | .time t => .ok (.time t)
  | .text s =>
    match Instant.ofRfc3339? s with
    | some t => .ok (.time t)
    | none => .error (.unreadableTimestamp s)
  | other => .error (.notDefinedFor Function.toTimestamp.name other)

-- NULL in gives NULL out, except in `coalesce`. No argument beyond those a function takes is looked at, and how many
-- there are is only asked for when its name is resolved.
def apply (function : Function) (arguments : List Value) : Except Cause Value :=
  match function, arguments with
  | .compare comparison, left :: right :: _ => comparison.apply left right
  | .calculate operation, left :: right :: _ => operation.apply left right
  | .not, value :: _ => negation value
  | .lower, value :: _ => onText .lower Text.toLower value
  | .upper, value :: _ => onText .upper Text.toUpper value
  | .coalesce, arguments => .ok ((arguments.find? fun value => !value.isNull).getD .null)
  | .toTimestamp, value :: _ => timestamp value
  | function, _ => .error (.missingArgument function)

def resolve (name : String) (count : Nat) : Except Cause Function :=
  match named? name with
  | none => .error (.unknownFunction name)
  | some function =>
    if function.takes count then .ok function else .error (.argumentCount function count)

end Function

end DeltaQuery
