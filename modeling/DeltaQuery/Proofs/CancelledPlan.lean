import DeltaQuery.Proofs.Cancellation
import DeltaQuery.Proofs.Compiling

namespace DeltaQuery

namespace Operator

def pullAtWith (source : Pull Feed) : (depth : Nat) → Pull Operator
  | _, .feed f, cancelled => (source f cancelled).map .feed
  | _, .scan name f, cancelled => (Pull.scan source name f cancelled).map (.scan name)
  | 0, op, cancelled => { answer := .error (Failure.of .endlessStream), stream := op, cancelled }
  | depth + 1, .filter predicate below, cancelled =>
    (Pull.filter (pullAtWith source depth) predicate below.remaining below cancelled).map (.filter predicate)
  | depth + 1, .map projection below, cancelled =>
    (Pull.map (pullAtWith source depth) projection below cancelled).map (.map projection)
  | depth + 1, .unionAll children cursor, cancelled =>
    (Rotation.pull (pullAtWith source depth) ⟨children, cursor⟩ cancelled).map fun rotation =>
      .unionAll rotation.streams rotation.cursor
  | depth + 1, .groupBy grouping below, cancelled =>
    (Grouped.pull (pullAtWith source depth) remaining ⟨grouping, below⟩ cancelled).map fun grouped =>
      .groupBy grouped.grouping grouped.source

def pullWith (source : Pull Feed) : Pull Operator := fun op cancelled => pullAtWith source op.depth op cancelled

theorem pullWith_feed : pullWith Feed.pull = pull := by
  have at_depth (depth : Nat) : pullAtWith Feed.pull depth = pullAt depth := by
    induction depth with
    | zero =>
      funext op cancelled
      cases op <;> simp only [pullAtWith, pullAt]
    | succ depth ih =>
      funext op cancelled
      cases op <;> simp only [pullAtWith, pullAt, ih]
  funext op cancelled
  rw [pullWith, at_depth, pull]

mutual

def feeds : Operator → List Feed
  | .feed f => [f]
  | .scan _ f => [f]
  | .filter _ source => feeds source
  | .map _ source => feeds source
  | .unionAll children _ => feedsOfAll children
  | .groupBy _ source => feeds source

def feedsOfAll : List Operator → List Feed
  | [] => []
  | child :: children => feeds child ++ feedsOfAll children

end

mutual

def groupings : Operator → List Grouping
  | .feed _ => []
  | .scan .. => []
  | .filter _ source => groupings source
  | .map _ source => groupings source
  | .unionAll children _ => groupingsOfAll children
  | .groupBy grouping source => grouping :: groupings source

def groupingsOfAll : List Operator → List Grouping
  | [] => []
  | child :: children => groupings child ++ groupingsOfAll children

end

theorem feedsOfAll_eq (children : List Operator) : feedsOfAll children = children.flatMap feeds := by
  induction children with
  | nil => rfl
  | cons child children ih => rw [feedsOfAll, ih, List.flatMap_cons]

theorem groupingsOfAll_eq (children : List Operator) : groupingsOfAll children = children.flatMap groupings := by
  induction children with
  | nil => rfl
  | cons child children ih => rw [groupingsOfAll, ih, List.flatMap_cons]

theorem pullAtWith_alike {source other : Pull Feed} (alike : source.AlikeTillOff other) (depth : Nat) :
    (pullAtWith source depth).AlikeTillOff (pullAtWith other depth) := by
  induction depth with
  | zero =>
    intro op
    cases op with
    | feed f => simp only [pullAtWith, alike f]
    | scan name f => simp only [pullAtWith, alike.scan name f]
    | _ => simp only [pullAtWith]
  | succ depth ih =>
    intro op
    cases op with
    | feed f => simp only [pullAtWith, alike f]
    | scan name f => simp only [pullAtWith, alike.scan name f]
    | filter predicate below => simp only [pullAtWith, ih.filter predicate below.remaining below]
    | map projection below => simp only [pullAtWith, ih.map projection below]
    | unionAll children cursor => simp only [pullAtWith, ih.union ⟨children, cursor⟩]
    | groupBy grouping below => simp only [pullAtWith, ih.grouped remaining ⟨grouping, below⟩]

theorem pullAtWith_breaksOff (source : Pull Feed) (depth : Nat) :
    Pull.BreaksOff source feeds groupings (pullAtWith source depth) (pullAtWith source.brokenOff depth) := by
  have feed (f : Feed) := Pull.BreaksOff.feed source f
  have scan (name : String) (f : Feed) := (Pull.BreaksOff.feed source).scan name f
  induction depth with
  | zero =>
    intro op
    cases op with
    | feed f =>
      simp only [pullAtWith]
      exact (feed f).within (fun _ => by rw [feeds]) fun _ => by rw [groupings]
    | scan name f =>
      simp only [pullAtWith]
      exact (scan name f).within (fun _ => by rw [feeds]) fun _ => by rw [groupings]
    | _ => exact .quiet (by simp only [pullAtWith]) (by simp only [pullAtWith])
  | succ depth ih =>
    intro op
    cases op with
    | feed f =>
      simp only [pullAtWith]
      exact (feed f).within (fun _ => by rw [feeds]) fun _ => by rw [groupings]
    | scan name f =>
      simp only [pullAtWith]
      exact (scan name f).within (fun _ => by rw [feeds]) fun _ => by rw [groupings]
    | filter predicate below =>
      simp only [pullAtWith]
      exact (ih.filter predicate below.remaining below).within (fun _ => by rw [feeds]) fun _ => by rw [groupings]
    | map projection below =>
      simp only [pullAtWith]
      exact (ih.map projection below).within (fun _ => by rw [feeds]) fun _ => by rw [groupings]
    | unionAll children cursor =>
      simp only [pullAtWith]
      exact (ih.union ⟨children, cursor⟩).within (fun _ => by rw [feeds, feedsOfAll_eq])
        fun _ => by rw [groupings, groupingsOfAll_eq]
    | groupBy grouping below =>
      simp only [pullAtWith]
      exact (ih.grouped remaining ⟨grouping, below⟩).within (fun _ => by rw [feeds]) fun _ => by rw [groupings]

def Staged : Operator → Prop
  | .feed _ => False
  | _ => True

theorem pullAtWith_staged (source : Pull Feed) (depth : Nat) {op : Operator} (staged : op.Staged) (cancelled : Bool) :
    (pullAtWith source depth op cancelled).stream.Staged := by
  cases op with
  | feed f => exact staged.elim
  | scan name f =>
    simp only [pullAtWith]
    trivial
  | _ =>
    cases depth <;>
    · simp only [pullAtWith]
      trivial

theorem pullWith_staged (source : Pull Feed) {op : Operator} (staged : op.Staged) (cancelled : Bool) :
    (pullWith source op cancelled).stream.Staged := pullAtWith_staged source op.depth staged cancelled

theorem after_staged (source : Pull Feed) (signals : List Bool) {op : Operator} (staged : op.Staged) :
    ((pullWith source).after signals op).Staged := by
  induction signals generalizing op with
  | nil => exact staged
  | cons cancelled signals ih => exact ih (pullWith_staged source staged cancelled)

-- A pull that gives no record and leaves the feeds and the tables of all groups as they are.
structure Idle (op : Operator) (call : Pulled Operator) : Prop where
  signal : call.cancelled = true
  silent : call.answer.Silent
  feeds : call.stream.feeds = op.feeds
  tables : call.stream.groupings.map (·.table) = op.groupings.map (·.table)

-- Once the run has been called off, a pull is the same whatever would come of pulling the feeds.
theorem pullWith_idle {op : Operator} (staged : op.Staged) :
    ∃ call, Idle op call ∧ ∀ source : Pull Feed, pullWith source op true = call := by
  simp only [pullWith]
  cases op with
  | feed f => exact staged.elim
  | scan name f =>
    refine ⟨⟨stopped .scan, .scan name f, true⟩, ⟨rfl, Answer.silent_error _, rfl, rfl⟩, fun source => ?_⟩
    rw [pullAtWith]
    rfl
  | filter predicate below =>
    refine ⟨⟨stopped .filter, .filter predicate below, true⟩, ⟨rfl, Answer.silent_error _, rfl, rfl⟩, fun source => ?_⟩
    rw [depth, pullAtWith, Pull.filter_stopped]
    rfl
  | map projection below =>
    refine ⟨⟨stopped .map, .map projection below, true⟩, ⟨rfl, Answer.silent_error _, rfl, rfl⟩, fun source => ?_⟩
    rw [depth, pullAtWith]
    rfl
  | unionAll children cursor =>
    refine ⟨⟨if children = [] then .ok none else stopped .unionAll, .unionAll children cursor, true⟩,
      ⟨rfl, ?_, rfl, rfl⟩, fun source => ?_⟩
    · dsimp only
      split
      · exact Answer.silent_none
      · exact Answer.silent_error _
    · rw [depth, pullAtWith, Pull.rotation_stopped]
      rfl
  | groupBy grouping below =>
    obtain ⟨answer, phase, silent, pulled⟩ := Pull.grouped_stopped remaining ⟨grouping, below⟩
    refine ⟨⟨answer, .groupBy { grouping with phase } below, true⟩, ⟨rfl, silent, by simp only [feeds], ?_⟩,
      fun source => ?_⟩
    · simp only [groupings, List.map_cons]
    · rw [depth, pullAtWith, pulled]
      rfl

theorem answers_idle (source : Pull Feed) {op : Operator} (staged : op.Staged) (count : Nat) :
    ∀ answer ∈ (pullWith source).answers (List.replicate count true) op, answer.Silent := by
  induction count generalizing op with
  | zero => simp [Pull.answers]
  | succ count ih =>
    obtain ⟨call, idle, pulled⟩ := pullWith_idle staged
    rw [List.replicate_succ, Pull.answers]
    refine List.forall_mem_cons.mpr ⟨?_, ih (pullWith_staged source staged true)⟩
    rw [pulled source]
    exact idle.silent

structure Stops (source : Pull Feed) (state : Operator) : Prop where
  -- Called off before a pull.
  before : ∃ call, Idle state call ∧ ∀ source : Pull Feed, pullWith source state true = call
  -- Called off during a pull.
  during : Breaks source feeds groupings (pullWith source state false) (pullWith source.brokenOff state false)
  -- From then on that pull does not pull any feed: what would come of it makes no difference.
  unasked : ∀ other : Pull Feed, source.AlikeTillOff other → pullWith source state false = pullWith other state false
  -- After that pull no record is given.
  after : ∀ count,
    ∀ answer ∈ (pullWith source).answers (List.replicate count true) (pullWith source state false).stream, answer.Silent

theorem stops (source : Pull Feed) {state : Operator} (staged : state.Staged) : Stops source state where
  before := pullWith_idle staged
  during := pullAtWith_breaksOff source state.depth state
  unasked _ alike := pullAtWith_alike alike state.depth state
  after := answers_idle source (pullWith_staged source staged false)

end Operator

namespace Plan

theorem materialize_staged {settings : Settings} {catalog after : Catalog} {plan : Plan} {op : Operator}
    (compiled : plan.materialize settings catalog = .ok (op, after)) : op.Staged := by
  cases plan with
  | scan s =>
    obtain ⟨feed, _, rfl⟩ := materialize_scan.mp compiled
    trivial
  | filter predicate source =>
    obtain ⟨below, _, formula, _, rfl⟩ := materialize_filter.mp compiled
    trivial
  | map columns source =>
    obtain ⟨below, _, formulas, _, projection, _, rfl⟩ := materialize_map.mp compiled
    trivial
  | unionAll sources =>
    obtain ⟨children, _, rfl⟩ := materialize_unionAll.mp compiled
    trivial
  | groupBy key measures source =>
    obtain ⟨_, below, _, formulas, _, spec, _, rfl⟩ := materialize_groupBy.mp compiled
    trivial

-- What a plan compiles to stops in every state it comes to, over feeds that are pulled in any way.
theorem cancellation_stops (settings : Settings) (catalog : Catalog) (plan : Plan) {op : Operator} {after : Catalog}
    (compiled : plan.materialize settings catalog = .ok (op, after)) :
    Operator.pullWith Feed.pull = Operator.pull ∧
      ∀ source signals, Operator.Stops source ((Operator.pullWith source).after signals op) :=
  ⟨Operator.pullWith_feed, fun source signals =>
    Operator.stops source (Operator.after_staged source signals (materialize_staged compiled))⟩

def callsOffAtOnce : Catalog where
  entries := [
    ("script", .script { pending := [⟨[("k", .int 1)], .insert⟩, ⟨[("k", .int 1)], .insert⟩], cancelAt := some 0 }),
    ("list", .memory [⟨[("k", .int 2)], .insert⟩])]

def countEach : Plan :=
  .groupBy [.variable "k"] [⟨"", .count, "n"⟩] (.unionAll [.scan { name := "script" }, .scan { name := "list" }])

-- The pull under way gives a row, and no pull after it does.
theorem cancellation_stops_underway :
    ∃ op after, countEach.materialize {} callsOffAtOnce = .ok (op, after) ∧
      (op.pull false).answer = .ok (some ⟨[("k", .int 1), ("n", .int 1)], .insert⟩) ∧ (op.pull false).cancelled = true ∧
      ∀ count, ∀ answer ∈ Operator.pull.answers (List.replicate count true) (op.pull false).stream, answer.Silent := by
  refine ⟨_, _, rfl, by decide +kernel, by decide +kernel, fun count answer given => ?_⟩
  obtain ⟨same, stops⟩ := cancellation_stops {} callsOffAtOnce countEach rfl
  have stop := stops Feed.pull []
  exact stop.after count answer (same ▸ given)

end Plan

end DeltaQuery
