import Std.Data.TreeMap
import DeltaQuery.Attempt
import DeltaQuery.Failure

namespace DeltaQuery

inductive Extreme
  | min
  | max
deriving DecidableEq

namespace Extreme

def aggregate : Extreme → Aggregate
  | .min => .min
  | .max => .max

def prefers (extreme : Extreme) (candidate best : Value) : Bool :=
  match extreme with
  | .min => compare candidate best == .lt
  | .max => compare candidate best == .gt

end Extreme

structure OrderedExtremum where
  extreme : Extreme
  counts : Std.TreeMap Value Nat Value.compare := ∅

namespace OrderedExtremum

def incorporate (held : OrderedExtremum) (value : Value) : OrderedExtremum :=
  { held with counts := held.counts.insert value (held.counts.getD value 0 + 1) }

def checkUndo (held : OrderedExtremum) (value : Value) : Except Cause Unit :=
  if held.counts.contains value then .ok () else .error (.neverSaw held.extreme.aggregate value)

def undo (held : OrderedExtremum) (value : Value) : Attempt Cause OrderedExtremum Unit :=
  match held.counts[value]? with
  | none => .failed held (.neverSaw held.extreme.aggregate value)
  | some copies =>
    let left := copies - 1
    let counts := if left = 0 then held.counts.erase value else held.counts.insert value left
    .done { held with counts } ()

def best? (held : OrderedExtremum) : Option Value :=
  match held.extreme with
  | .min => held.counts.minKey?
  | .max => held.counts.maxKey?

def current (held : OrderedExtremum) : Except Cause Value :=
  match held.best? with
  | some value => .ok value
  | none => .error (.noValues held.extreme.aggregate)

end OrderedExtremum

-- An unsorted list and the best value of it. The last value fills the place of one that leaves, and only when a value
-- equal to the best leaves is the list gone through again.
structure RescanExtremum where
  extreme : Extreme
  values : List Value := []
  best : Option Value := none

namespace RescanExtremum

def better (extreme : Extreme) (best : Option Value) (value : Value) : Option Value :=
  match best with
  | none => some value
  | some best => if extreme.prefers value best then some value else some best

def incorporate (held : RescanExtremum) (value : Value) : RescanExtremum :=
  { held with values := held.values ++ [value], best := better held.extreme held.best value }

def checkUndo (held : RescanExtremum) (value : Value) : Except Cause Unit :=
  if value ∈ held.values then .ok () else .error (.neverSaw held.extreme.aggregate value)

-- A list without the element at a place, which the last element takes.
def swapRemove (values : List Value) (place : Nat) : List Value :=
  match values.getLast? with
  | some last => (values.set place last).dropLast
  | none => []

def undo (held : RescanExtremum) (value : Value) : Attempt Cause RescanExtremum Unit :=
  match held.values.idxOf? value with
  | none => .failed held (.neverSaw held.extreme.aggregate value)
  | some place =>
    let values := swapRemove held.values place
    let best := if held.best = some value then values.foldl (better held.extreme) none else held.best
    .done { held with values, best } ()

def current (held : RescanExtremum) : Except Cause Value :=
  match held.best with
  | some value => .ok value
  | none => .error (.noValues held.extreme.aggregate)

end RescanExtremum

end DeltaQuery
