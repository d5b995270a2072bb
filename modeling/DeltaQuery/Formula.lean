import DeltaQuery.Function.Apply
import DeltaQuery.Record

namespace DeltaQuery

inductive Connective
  | and
  | or
deriving DecidableEq

def Connective.name : Connective → String
  | .and => "and"
  | .or => "or"

-- The truth value that settles a connective; without it the result is the other one or NULL.
def Connective.settling : Connective → Bool
  | .and => false
  | .or => true

inductive Formula
  | variable (name : String)
  | constant (value : Value)
  | call (function : Function) (arguments : List Formula)
  | connect (connective : Connective) (operands : List Formula)

namespace Formula

-- The truth value of an operand; NULL is neither true nor false.
def truth? (connective : Connective) : Value → Except Cause (Option Bool)
  | .null => .ok none
  | .bool b => .ok (some b)
  | other => .error (.notDefinedFor connective.name other)

mutual

def evaluate (record : Record) : Formula → Except Cause Value
  | .variable name =>
    match record.value? name with
    | some value => .ok value
    | none => .error (.unknownVariable name)
  | .constant value => .ok value
  | .call function arguments =>
    match evaluateAll record arguments with
    | .ok values => function.apply values
    | .error cause => .error cause
  | .connect connective operands => join record connective false operands

def evaluateAll (record : Record) : List Formula → Except Cause (List Value)
  | [] => .ok []
  | formula :: formulas =>
    match evaluate record formula with
    | .error cause => .error cause
    | .ok value =>
      match evaluateAll record formulas with
      | .error cause => .error cause
      | .ok values => .ok (value :: values)

-- From left to right, up to the first operand that settles the result: one after it is not evaluated and cannot fail.
def join (record : Record) (connective : Connective) (sawNull : Bool) : List Formula → Except Cause Value
  | [] => .ok (if sawNull then .null else .bool !connective.settling)
  | operand :: operands =>
    match evaluate record operand with
    | .error cause => .error cause
    | .ok value =>
      match truth? connective value with
      | .error cause => .error cause
      | .ok none => join record connective true operands
      | .ok (some b) =>
        if b = connective.settling then .ok (.bool b) else join record connective sawNull operands

end

end Formula

end DeltaQuery
