import DeltaQuery.Stream.Feed
import DeltaQuery.Stream.Grouping
import DeltaQuery.Stream.Row
import DeltaQuery.Stream.Union

namespace DeltaQuery

inductive Operator
  | feed (feed : Feed)
  | scan (name : String) (feed : Feed)
  | filter (predicate : Formula) (source : Operator)
  | map (projection : Projection) (source : Operator)
  | unionAll (children : List Operator) (cursor : Nat)
  | groupBy (grouping : Grouping) (source : Operator)

namespace Operator

mutual

def depth : Operator → Nat
  | .feed _ => 0
  | .scan .. => 0
  | .filter _ source => depth source + 1
  | .map _ source => depth source + 1
  | .unionAll children _ => depthOfAll children + 1
  | .groupBy _ source => depth source + 1

def depthOfAll : List Operator → Nat
  | [] => 0
  | child :: children => max (depth child) (depthOfAll children)

end

mutual

-- No more records than this are left, which bounds a stage that goes on pulling until it has an answer. A record
-- below a grouping can add a row of its own and a group.
def remaining : Operator → Nat
  | .feed f => f.remaining
  | .scan _ f => f.remaining
  | .filter _ source => remaining source
  | .map _ source => remaining source
  | .unionAll children _ => remainingOfAll children
  | .groupBy grouping source => 2 * remaining source + (grouping.table.size - grouping.drained)

def remainingOfAll : List Operator → Nat
  | [] => 0
  | child :: children => remaining child + remainingOfAll children

end

def pullAt : (depth : Nat) → Pull Operator
  | _, .feed f, cancelled => (f.pull cancelled).map .feed
  | _, .scan name f, cancelled => (Pull.scan Feed.pull name f cancelled).map (.scan name)
  | 0, op, cancelled => { answer := .error (Failure.of .endlessStream), stream := op, cancelled }
  | depth + 1, .filter predicate source, cancelled =>
    (Pull.filter (pullAt depth) predicate source.remaining source cancelled).map (.filter predicate)
  | depth + 1, .map projection source, cancelled =>
    (Pull.map (pullAt depth) projection source cancelled).map (.map projection)
  | depth + 1, .unionAll children cursor, cancelled =>
    (Rotation.pull (pullAt depth) ⟨children, cursor⟩ cancelled).map fun rotation =>
      .unionAll rotation.streams rotation.cursor
  | depth + 1, .groupBy grouping source, cancelled =>
    (Grouped.pull (pullAt depth) remaining ⟨grouping, source⟩ cancelled).map fun grouped =>
      .groupBy grouped.grouping grouped.source

def pull : Pull Operator := fun op cancelled => pullAt op.depth op cancelled

end Operator

end DeltaQuery
