import Std.Data.TreeMap
import DeltaQuery.Value

namespace DeltaQuery

-- Only values that are held have an entry, and `size` is the number of copies of all of them.
structure LiveValues where
  counts : Std.TreeMap Value Nat Value.compare := ∅
  size : Nat := 0

namespace LiveValues

def multiplicity (live : LiveValues) (value : Value) : Nat := live.counts.getD value 0

def isEmpty (live : LiveValues) : Bool := live.size == 0

def add (live : LiveValues) (value : Value) : Nat × LiveValues :=
  let copies := live.multiplicity value + 1
  (copies, { counts := live.counts.insert value copies, size := live.size + 1 })

-- One copy less of a value, and how many are left; nothing if the value is not held.
def withdraw? (live : LiveValues) (value : Value) : Option (Nat × LiveValues) :=
  match live.counts[value]? with
  | none => none
  | some copies =>
    let left := copies - 1
    let counts := if left = 0 then live.counts.erase value else live.counts.insert value left
    some (left, { counts, size := live.size - 1 })

def insert (live : LiveValues) (value : Value) : LiveValues := (live.add value).2

def erase (live : LiveValues) (value : Value) : LiveValues := ((live.withdraw? value).map (·.2)).getD live

end LiveValues

end DeltaQuery
