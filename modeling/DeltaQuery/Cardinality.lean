namespace DeltaQuery

inductive Cardinality
  | boundedFits
  | boundedDoesNotFit
  | unbounded
deriving DecidableEq

namespace Cardinality

def name : Cardinality → String
  | .boundedFits => "bounded_fits_in_local_storage"
  | .boundedDoesNotFit => "bounded_does_not_fit_in_local_storage"
  | .unbounded => "unbounded"

def size : Cardinality → Nat
  | .boundedFits => 0
  | .boundedDoesNotFit => 1
  | .unbounded => 2

def combine (a b : Cardinality) : Cardinality := if a.size < b.size then b else a

def isBounded (a : Cardinality) : Bool := a != .unbounded

end Cardinality

end DeltaQuery
