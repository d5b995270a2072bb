import DeltaQuery.Proofs.Compiling
import DeltaQuery.Proofs.Exhaustion

namespace DeltaQuery

def Source.listing? : Source → Option Listing
  | .memory records => some ⟨records, .ok ()⟩
  | .script s => if s.cancelAt = none then some s.listing else none
  | _ => none

def Catalog.listing? (catalog : Catalog) (name : String) : Option Listing :=
  match catalog.find name with
  | .ok source => source.listing?
  | .error _ => none

theorem Source.start_listed {source : Source} {listing : Listing} {feed : Feed} (listed : source.listing? = some listing)
    (opened : source.start.1 = .ok feed) : source.start.2 = source ∧ Feed.pull.Lists feed listing := by
  cases source with
  | memory records =>
    cases listed
    cases opened
    exact ⟨rfl, Feed.replay_run records⟩
  | script s =>
    simp only [listing?, Option.ite_none_right_eq_some, Option.some.injEq] at listed
    obtain ⟨calm, rfl⟩ := listed
    cases opened
    exact ⟨rfl, (s.pull_lists calm).within fun _ => rfl⟩
  | _ => cases listed

theorem Catalog.start_listed {catalog after : Catalog} {name : String} {listing : Listing} {feed : Feed}
    (listed : catalog.listing? name = some listing) (started : catalog.start name = .ok (feed, after)) :
    Feed.pull.Lists feed listing ∧ ∀ other, after.find other = catalog.find other := by
  obtain ⟨source, found, opened, rfl⟩ := start_eq_ok.mp started
  rw [listing?, found] at listed
  obtain ⟨same, lists⟩ := Source.start_listed listed opened
  rw [same]
  exact ⟨lists, find_register_found found⟩

def Expr.keep (predicate : Expr) (record : Record) : Except Failure (Option Record) := do
  let formula ← predicate.resolve
  formula.keep record

theorem Expr.keep_eq {predicate : Expr} {formula : Formula} (resolved : predicate.resolve = .ok formula) :
    predicate.keep = formula.keep := by
  funext record
  simp [keep, resolved, bind, Except.bind]

def Column.row (columns : List Column) (record : Record) : Except Failure (Option Record) := do
  let formulas ← Expr.resolveEach .planColumn 0 (columns.map (·.expr))
  let values ← Formula.evaluateEach .mapColumn record 0 formulas
  .ok (some (Record.ofLists (Column.names columns) values record.kind))

namespace Plan

mutual

-- What a plan gives over sources of which it is known what they give.
def listing? (held : String → Option Listing) : Plan → Option Listing
  | .scan s => (held s.name).map (·.around (.reading s.name))
  | .filter predicate source =>
    (listing? held source).map fun below => .through predicate.keep below.outcome below.records
  | .map columns source =>
    (listing? held source).map fun below => .through (Column.row columns) below.outcome below.records
  | .unionAll sources => (listings? held sources).map (.inTurn [])
  | .groupBy .. => none

def listings? (held : String → Option Listing) : List Plan → Option (List Listing)
  | [] => some []
  | plan :: plans => do
    let listing ← listing? held plan
    let listings ← listings? held plans
    some (listing :: listings)

end

theorem projection_row {columns : List Column} {formulas : List Formula} {projection : Projection}
    (resolved : Expr.resolveEach .planColumn 0 (columns.map (·.expr)) = .ok formulas)
    (made : Projection.make formulas (Column.names columns) = .ok projection) :
    Column.row columns = fun record => (projection.apply record).map some := by
  obtain ⟨rfl, names⟩ := Projection.make_eq_ok.mp made
  funext record
  unfold Column.row Projection.apply
  rw [resolved, names]
  cases values : Formula.evaluateEach .mapColumn record 0 projection.formulas <;>
    simp [bind, Except.bind, values, Except.map]

variable {settings : Settings} {catalog after : Catalog} {op : Operator}

-- No grouping, and every source that is scanned has a listing.
structure Flat (catalog : Catalog) (plan : Plan) : Prop where
  ungrouped : ∀ below, ¬ plan.Groups below
  listed : ∀ s ∈ plan.scans, ∃ listing, catalog.listing? s.name = some listing

structure Unfolds (plan : Plan) (catalog after : Catalog) (op : Operator) : Prop where
  gives : ∃ listing, plan.listing? catalog.listing? = some listing ∧ Operator.pull.Lists op listing
  same : ∀ name, after.find name = catalog.find name
  inMemory : (∀ s ∈ plan.scans, ∃ records, catalog.find s.name = .ok (.memory records)) → op.InMemory

theorem Flat.congr {plan : Plan} (flat : plan.Flat catalog) (same : ∀ name, after.find name = catalog.find name) :
    plan.Flat after := by
  refine ⟨flat.ungrouped, ?_⟩
  intro s scanned
  obtain ⟨listing, listed⟩ := flat.listed s scanned
  exact ⟨listing, by simpa only [Catalog.listing?, same] using listed⟩

theorem materializeFrom_unfolds {plans : List Plan} (index : Nat)
    (each : ∀ plan ∈ plans, ∀ {catalog after op}, plan.Flat catalog →
      plan.materialize settings catalog = .ok (op, after) → plan.Unfolds catalog after op)
    (flat : ∀ plan ∈ plans, plan.Flat catalog) {children : List Operator}
    (compiled : materializeFrom settings index plans catalog = .ok (children, after)) :
    (∃ listings, listings? catalog.listing? plans = some listings ∧ Operator.pull.ListsEach children listings) ∧
      (∀ name, after.find name = catalog.find name) ∧
      ((∀ plan ∈ plans, ∀ s ∈ plan.scans, ∃ records, catalog.find s.name = .ok (.memory records)) →
        ∀ child ∈ children, child.InMemory) := by
  induction plans generalizing index catalog children with
  | nil =>
    rw [materializeFrom] at compiled
    cases compiled
    exact ⟨⟨[], rfl, .nil⟩, fun _ => rfl, fun _ => by simp⟩
  | cons plan plans ih =>
    obtain ⟨child, middle, first, others, rest, rfl⟩ := materializeFrom_cons.mp compiled
    obtain ⟨unfoldsFirst, unfoldsRest⟩ := List.forall_mem_cons.mp each
    obtain ⟨flatFirst, flatRest⟩ := List.forall_mem_cons.mp flat
    obtain ⟨⟨listing, held, lists⟩, sameFirst, memoryFirst⟩ := unfoldsFirst flatFirst first
    have unchanged : middle.listing? = catalog.listing? := by
      funext name
      simp only [Catalog.listing?, sameFirst]
    obtain ⟨⟨listings, heldRest, listsRest⟩, sameRest, memoryRest⟩ :=
      ih (index + 1) unfoldsRest (fun plan member => (flatRest plan member).congr sameFirst) rest
    rw [unchanged] at heldRest
    refine ⟨⟨listing :: listings, by simp [listings?, held, heldRest], .cons lists listsRest⟩, ?_, ?_⟩
    · exact fun name => (sameRest name).trans (sameFirst name)
    · intro memory
      obtain ⟨memoryHere, memoryLater⟩ := List.forall_mem_cons.mp memory
      simp only [sameFirst] at memoryRest
      exact List.forall_mem_cons.mpr ⟨memoryFirst memoryHere, memoryRest memoryLater⟩

theorem materialize_unfolds (plan : Plan) (flat : plan.Flat catalog)
    (compiled : plan.materialize settings catalog = .ok (op, after)) : plan.Unfolds catalog after op := by
  induction plan using inductionOn generalizing catalog after op with
  | scan s =>
    obtain ⟨feed, started, rfl⟩ := materialize_scan.mp compiled
    obtain ⟨listing, held⟩ := flat.listed s (by simp)
    obtain ⟨lists, same⟩ := Catalog.start_listed held started
    refine ⟨⟨listing.around (.reading s.name), by simp [listing?, held], ?_⟩, same, ?_⟩
    · exact (Pull.scan_lists lists s.name).within fun feed => Operator.pull_scan s.name feed false
    · intro memory
      obtain ⟨records, found⟩ := memory s (by simp)
      obtain ⟨rfl, _⟩ := Catalog.start_memory found started
      exact .scan s.name records
  | filter predicate source ih =>
    obtain ⟨below, compiledBelow, formula, resolved, rfl⟩ := materialize_filter.mp compiled
    obtain ⟨⟨listing, held, lists⟩, same, memory⟩ :=
      ih ⟨by simpa using flat.ungrouped, by simpa using flat.listed⟩ compiledBelow
    refine ⟨⟨_, by rw [listing?, held]; rfl, ?_⟩, same, ?_⟩
    · rw [Expr.keep_eq resolved]
      exact (Pull.filter_lists Operator.pull_bounds lists formula).within fun source =>
        Operator.pull_filter formula source false
    · rw [scans_filter]
      exact fun all => .filter formula (memory all)
  | map columns source ih =>
    obtain ⟨below, compiledBelow, formulas, resolved, projection, made, rfl⟩ := materialize_map.mp compiled
    obtain ⟨⟨listing, held, lists⟩, same, memory⟩ :=
      ih ⟨by simpa using flat.ungrouped, by simpa using flat.listed⟩ compiledBelow
    refine ⟨⟨_, by rw [listing?, held]; rfl, ?_⟩, same, ?_⟩
    · rw [projection_row resolved made]
      exact (Pull.map_lists lists projection).within fun source => Operator.pull_map projection source false
    · rw [scans_map]
      exact fun all => .map projection (memory all)
  | unionAll sources ih =>
    obtain ⟨children, compiledAll, rfl⟩ := materialize_unionAll.mp compiled
    have each (source : Plan) (member : source ∈ sources) : source.Flat catalog := by
      refine ⟨?_, ?_⟩
      · exact fun below groups => flat.ungrouped below (groups_unionAll.mpr ⟨source, member, groups⟩)
      · exact fun s scanned => flat.listed s (by simpa using ⟨source, member, scanned⟩)
    obtain ⟨⟨listings, held, lists⟩, same, memory⟩ :=
      materializeFrom_unfolds 0 (fun source member => ih source member) each compiledAll
    have pulled (rotation : Rotation Operator) := Operator.pull_unionAll rotation.streams rotation.cursor false
    refine ⟨⟨_, by rw [listing?, held]; rfl, ?_⟩, same, ?_⟩
    · exact (Pull.rotation_lists .nil lists rfl).within pulled
    · intro all
      exact .unionAll 0 (memory fun source member s scanned => all s (by simpa using ⟨source, member, scanned⟩))
  | groupBy key measures source ih => exact absurd (groups_groupBy.mpr (.inl rfl)) (flat.ungrouped source)

-- Pulling a plan without groupings gives the listing of the plan, over sources in memory or scripted to fail. If all
-- of them are in memory and the listing ends, every pull after the end gives the end again.
theorem pulls_listing (settings : Settings) (catalog : Catalog) (plan : Plan) (ungrouped : ∀ below, ¬ plan.Groups below)
    (listed : ∀ s ∈ plan.scans, ∃ listing, catalog.listing? s.name = some listing) {op : Operator} {after : Catalog}
    (compiled : plan.materialize settings catalog = .ok (op, after)) :
    ∃ listing, plan.listing? catalog.listing? = some listing ∧
      Operator.pull.Runs op listing.records listing.outcome ∧
      ((∀ s ∈ plan.scans, ∃ records, catalog.find s.name = .ok (.memory records)) → listing.outcome = .ok () →
        ∀ more, Operator.pull.answers (List.replicate more false)
          (Operator.pull.after (List.replicate (listing.records.length + 1) false) op) = List.replicate more (.ok none)) := by
  obtain ⟨⟨listing, held, lists⟩, same, inMemory⟩ := materialize_unfolds plan ⟨ungrouped, listed⟩ compiled
  refine ⟨listing, held, lists, ?_⟩
  intro memory ends more
  unfold Pull.Lists at lists
  rw [ends] at lists
  exact (lists.exhausted Operator.pull_rests (inMemory memory)).answers more

def listAndScript : Catalog where
  entries := [
    ("list", .memory [⟨[("k", .int 1)], .insert⟩, ⟨[("k", .int 2)], .retract⟩, ⟨[("k", .int 3)], .insert⟩]),
    ("script", .script { pending := [⟨[("n", .int 4)], .insert⟩, ⟨[("n", .int 5)], .insert⟩], failAt := some 1 })]

def notOne (sources : List Plan) : Plan :=
  .filter (.call "!=" [.variable "k", .constant (.int 1)]) (.unionAll sources)

def listThenScript : Plan := notOne [.scan { name := "list" }, .map [⟨.variable "n", "k"⟩] (.scan { name := "script" })]

def listAlone : Plan := notOne [.unionAll [], .scan { name := "list" }]

theorem pulls_listing_listAndScript :
    (∃ op after, listThenScript.materialize {} listAndScript = .ok (op, after) ∧
      listThenScript.listing? listAndScript.listing? =
        some ⟨[⟨[("k", .int 4)], .insert⟩, ⟨[("k", .int 2)], .retract⟩],
          .error (((Failure.of (.scriptedPull 1)).within (.reading "script")).within (.unionChild 1))⟩ ∧
      Operator.pull.Runs op [⟨[("k", .int 4)], .insert⟩, ⟨[("k", .int 2)], .retract⟩]
        (.error (((Failure.of (.scriptedPull 1)).within (.reading "script")).within (.unionChild 1)))) ∧
    ∃ op after, listAlone.materialize {} listAndScript = .ok (op, after) ∧
      Operator.pull.answers (List.replicate 2 false) (Operator.pull.after (List.replicate 3 false) op) =
        List.replicate 2 (.ok none) := by
  refine ⟨⟨_, _, rfl, ?_⟩, _, _, rfl, ?_⟩
  · obtain ⟨⟨records, outcome⟩, held, runs, _⟩ := pulls_listing {} listAndScript listThenScript
      (by simp [listThenScript, notOne])
      (by simp [listThenScript, notOne, Catalog.listing?, listAndScript, Catalog.find, ByName.lookup_cons, Source.listing?]) rfl
    obtain ⟨rfl, rfl⟩ := @Pull.Runs.unique _ _ _ _ _ runs [⟨[("k", .int 4)], .insert⟩, ⟨[("k", .int 2)], .retract⟩]
      (.error (((Failure.of (.scriptedPull 1)).within (.reading "script")).within (.unionChild 1))) <|
        .record (by decide +kernel) (by decide +kernel) <| .record (by decide +kernel) (by decide +kernel) <|
          .failed (by decide +kernel)
    exact ⟨held, runs⟩
  · obtain ⟨⟨records, outcome⟩, held, runs, ended⟩ := pulls_listing {} listAndScript listAlone
      (by simp [listAlone, notOne])
      (by simp [listAlone, notOne, Catalog.listing?, listAndScript, Catalog.find, ByName.lookup_cons, Source.listing?]) rfl
    obtain ⟨rfl, rfl⟩ := @Pull.Runs.unique _ _ _ _ _ runs [⟨[("k", .int 2)], .retract⟩, ⟨[("k", .int 3)], .insert⟩]
      (.ok ()) <|
        .record (by decide +kernel) (by decide +kernel) <| .record (by decide +kernel) (by decide +kernel) <|
          .ended (by decide +kernel) (by decide +kernel)
    exact ended (by simp [listAlone, notOne, listAndScript, Catalog.find, ByName.lookup_cons]) rfl 2

end Plan

end DeltaQuery
