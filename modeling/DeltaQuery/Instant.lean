namespace DeltaQuery

-- A leap second is written into the second before it, whose nanoseconds then run on from 10^9.
structure Instant where
  seconds : Int
  nanos : Nat
  valid : nanos < 10 ^ 9 ∨ nanos < 2 * 10 ^ 9 ∧ seconds % 60 = 59
deriving DecidableEq

namespace Instant

def ofParts? (seconds : Int) (nanos : Nat) : Option Instant :=
  if valid : nanos < 10 ^ 9 ∨ nanos < 2 * 10 ^ 9 ∧ seconds % 60 = 59 then some ⟨seconds, nanos, valid⟩
  else none

instance : Ord Instant :=
  ⟨fun s t => (compare s.seconds t.seconds).then (compare s.nanos t.nanos)⟩

theorem compare_eq_then (s t : Instant) :
    compare s t = (compare s.seconds t.seconds).then (compare s.nanos t.nanos) := rfl

end Instant

end DeltaQuery
