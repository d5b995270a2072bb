import Std.Data.TreeMap
import DeltaQuery.Attempt
import DeltaQuery.Failure

namespace DeltaQuery

inductive End
  | first
  | last
deriving DecidableEq

def End.aggregate : End → Aggregate
  | .first => .first
  | .last => .last

-- Every value gets a number as it arrives, and is taken back by its oldest copy. So the values held are those of a
-- list from which the first equal element is erased.
structure ArrivalOrder where
  wanted : End
  next : Nat := 0
  arrivals : Std.TreeMap Nat Value := ∅
  -- The numbers of each value held, the oldest first.
  copies : Std.TreeMap Value (List Nat) Value.compare := ∅

namespace ArrivalOrder

def incorporate (order : ArrivalOrder) (value : Value) : ArrivalOrder :=
  { order with
    next := order.next + 1
    arrivals := order.arrivals.insert order.next value
    copies := order.copies.insert value (order.copies.getD value [] ++ [order.next]) }

def checkUndo (order : ArrivalOrder) (value : Value) : Except Cause Unit :=
  if order.copies.contains value then .ok () else .error (.neverSaw order.wanted.aggregate value)

def withdraw (order : ArrivalOrder) (value : Value) : ArrivalOrder :=
  match order.copies.getD value [] with
  | [] => order
  | oldest :: newer =>
    { order with
      arrivals := order.arrivals.erase oldest
      copies := if newer.isEmpty then order.copies.erase value else order.copies.insert value newer }

def undo (order : ArrivalOrder) (value : Value) : Attempt Cause ArrivalOrder Unit :=
  match order.checkUndo value with
  | .error cause => .failed order cause
  | .ok () => .done (order.withdraw value) ()

def toList (order : ArrivalOrder) : List Value := order.arrivals.toList.map (·.2)

def number? (order : ArrivalOrder) : Option Nat :=
  match order.wanted with
  | .first => order.arrivals.minKey?
  | .last => order.arrivals.maxKey?

def current (order : ArrivalOrder) : Except Cause Value :=
  match order.number?.bind (order.arrivals[·]?) with
  | some value => .ok value
  | none => .error (.noValues order.wanted.aggregate)

end ArrivalOrder

end DeltaQuery
