import DeltaQuery.Failure
import DeltaQuery.Record

namespace DeltaQuery

-- A sink is kept whatever it answers, since a failed write may have gone through in part.
structure Sink (τ : Type) where
  write : τ → Record → Except Failure Unit × τ
  close : τ → Except Failure Unit × τ

-- Records kept in memory, the latest in front, and how often they were closed.
structure Collected where
  latest : List Record := []
  closed : Nat := 0

namespace Collected

def records (collected : Collected) : List Record := collected.latest.reverse

def sink : Sink Collected where
  write collected record := (.ok (), { collected with latest := record :: collected.latest })
  close collected := (.ok (), { collected with closed := collected.closed + 1 })

end Collected

end DeltaQuery
