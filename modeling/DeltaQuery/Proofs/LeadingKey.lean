import DeltaQuery.Proofs.CancelledPlan
import DeltaQuery.Proofs.ListedPlan
import DeltaQuery.Proofs.WellFormed

namespace DeltaQuery

-- The value of an expression on a record, once it resolves.
def Expr.Gives (expr : Expr) (record : Record) (value : Value) : Prop :=
  ∃ formula, expr.resolve = .ok formula ∧ formula.evaluate record = .ok value

theorem Expr.gives_variable {field : String} {record : Record} {value : Value} :
    (Expr.variable field).Gives record value ↔ record.value? field = some value := by
  simp only [Gives, resolve, Except.ok.injEq, exists_eq_left', Formula.evaluate]
  cases record.value? field <;> simp

namespace Column

variable {columns : List Column} {record made : Record} {field name : String}

theorem gives_each {exprs : List Expr} {formulas : List Formula} {values : List Value} (resolving evaluating : Nat → Place)
    (index : Nat) (resolved : Expr.resolveEach resolving index exprs = .ok formulas)
    (evaluated : Formula.evaluateEach evaluating record index formulas = .ok values) :
    List.Forall₂ (fun expr value => expr.Gives record value) exprs values := by
  induction exprs generalizing index formulas values with
  | nil =>
    cases resolved
    cases evaluated
    exact .nil
  | cons expr exprs ih =>
    obtain ⟨formula, first, others, rest, rfl⟩ := Expr.resolveEach_cons.mp resolved
    obtain ⟨value, valued, later, laterValued, rfl⟩ := Formula.evaluateEach_cons.mp evaluated
    exact .cons ⟨formula, first, valued⟩ (ih (index + 1) rest laterValued)

theorem row_ok (gives : row columns record = .ok (some made)) :
    ∃ values, List.Forall₂ (fun column value => column.expr.Gives record value) columns values ∧
      made = Record.ofLists (names columns) values record.kind := by
  obtain ⟨formulas, resolved, rest⟩ := bind_eq_ok.mp gives
  obtain ⟨values, evaluated, last⟩ := bind_eq_ok.mp rest
  cases last
  exact ⟨values, List.forall₂_map_left_iff.mp (gives_each _ _ 0 resolved evaluated), rfl⟩

-- Under a name stands the value of the first column of that name.
theorem lookup_zip {α β : Type} {related : α → β → Prop} {entries : List α} {others : List β} {entry : α}
    (each : List.Forall₂ related entries others) (names : List String)
    (found : (names.zip entries).lookup name = some entry) :
    ∃ other, (names.zip others).lookup name = some other ∧ related entry other := by
  induction each generalizing names with
  | nil => simp at found
  | @cons first other entries others here rest ih =>
    cases names with
    | nil => simp at found
    | cons head names =>
      rw [List.zip_cons_cons, ByName.lookup_cons] at found ⊢
      split at found
      · cases found
        exact ⟨other, by simp_all, here⟩
      · obtain ⟨value, later, holds⟩ := ih names found
        exact ⟨value, by simp_all, holds⟩

-- The first column of the name that a field is passed on under is that field itself.
def Unshadowed (columns : List Column) (field : String) : Prop :=
  ∀ column ∈ ((names columns).zip columns).lookup (nameOf columns field), column.expr = .variable field

instance : Decidable (Unshadowed columns field) :=
  inferInstanceAs <| Decidable <|
    ∀ column ∈ ((names columns).zip columns).lookup (nameOf columns field), column.expr = .variable field

theorem nameOf_empty (columns : List Column) : nameOf columns "" = "" := rfl

theorem nameOf_mem_names (passed : nameOf columns field ≠ "") : nameOf columns field ∈ names columns := by
  unfold nameOf at passed ⊢
  split at passed
  · exact absurd rfl passed
  · rename_i nonempty
    rw [if_neg nonempty]
    generalize kept : List.find? _ _ = found at passed ⊢
    cases found with
    | none => exact absurd rfl passed
    | some entry => exact (List.of_mem_zip (List.mem_of_find?_eq_some kept)).2

theorem lookup_nameOf (passed : nameOf columns field ≠ "") :
    ∃ column, ((names columns).zip columns).lookup (nameOf columns field) = some column := by
  have aligned : ((names columns).zip columns).map (·.1) = names columns :=
    List.map_fst_zip (by simp [names])
  have present := nameOf_mem_names passed
  rw [← aligned, ByName.mem_names_iff_lookup] at present
  exact Option.isSome_iff_exists.mp present

theorem row_value? (gives : row columns record = .ok (some made)) (passed : nameOf columns field ≠ "")
    (unshadowed : Unshadowed columns field) : made.value? (nameOf columns field) = record.value? field := by
  obtain ⟨values, each, rfl⟩ := row_ok gives
  obtain ⟨column, found⟩ := lookup_nameOf passed
  obtain ⟨value, stands, given⟩ := lookup_zip each (names columns) found
  rw [unshadowed column found, Expr.gives_variable] at given
  exact stands.trans given.symm

end Column

-- A step on what an earlier one has made, if it has not dropped its record.
def stepOn (step : Record → Except Failure (Option Record)) : Option Record → Except Failure (Option Record)
  | some below => step below
  | none => .ok none

theorem stepOn_ok {first : Except Failure (Option Record)} {step : Record → Except Failure (Option Record)}
    {made : Record} :
    first >>= stepOn step = .ok (some made) ↔ ∃ below, first = .ok (some below) ∧ step below = .ok (some made) := by
  rw [bind_eq_ok]
  constructor
  · rintro ⟨kept, here, later⟩
    cases kept with
    | none => cases later
    | some below => exact ⟨below, here, later⟩
  · rintro ⟨below, here, later⟩
    exact ⟨some below, here, later⟩

namespace Plan

def chainScan? : Plan → Option Scan
  | .scan s => some s
  | .filter _ source => chainScan? source
  | .map _ source => chainScan? source
  | .unionAll _ => none
  | .groupBy .. => none

-- What a chain makes of one record of its scan; other plans are not made of one record at a time.
def pass : Plan → Record → Except Failure (Option Record)
  | .scan _, record => .ok (some record)
  | .filter predicate source, record => pass source record >>= stepOn predicate.keep
  | .map columns source, record => pass source record >>= stepOn (Column.row columns)
  | .unionAll _, _ => .ok none
  | .groupBy .., _ => .ok none

def Unshadowed (plan : Plan) : Prop :=
  ∀ columns source, map columns source ∈ plan.nodes → Column.Unshadowed columns source.metadata.leadingKey

variable {plan : Plan} {s : Scan} {record made : Record}

@[simp]
theorem unshadowed_scan : (scan s).Unshadowed := by
  simp [Unshadowed, nodes]

@[simp]
theorem unshadowed_filter {predicate : Expr} {source : Plan} : (filter predicate source).Unshadowed ↔ source.Unshadowed := by
  simp [Unshadowed, nodes]

@[simp]
theorem unshadowed_map {columns : List Column} {source : Plan} :
    (map columns source).Unshadowed ↔ Column.Unshadowed columns source.metadata.leadingKey ∧ source.Unshadowed := by
  simp only [Unshadowed, nodes, List.mem_cons, map.injEq]
  constructor
  · intro all
    exact ⟨all columns source (.inl ⟨rfl, rfl⟩), fun columns source member => all columns source (.inr member)⟩
  · rintro ⟨here, below⟩ columns source (⟨rfl, rfl⟩ | member)
    · exact here
    · exact below columns source member

theorem pass_value? (chain : plan.chainScan? = some s) (reported : plan.metadata.leadingKey ≠ "")
    (unshadowed : plan.Unshadowed) (passes : plan.pass record = .ok (some made)) :
    made.value? plan.metadata.leadingKey = record.value? s.leadingKey := by
  induction plan using inductionOn generalizing made with
  | scan scanned =>
    cases chain
    cases passes
    rfl
  | filter predicate source ih =>
    obtain ⟨below, passed, keeps⟩ := stepOn_ok.mp passes
    obtain ⟨formula, _, kept⟩ := bind_eq_ok.mp keeps
    obtain ⟨_, rfl⟩ := Formula.keep_eq_some.mp kept
    exact ih chain reported (unshadowed_filter.mp unshadowed) passed
  | map columns source ih =>
    obtain ⟨below, passed, row⟩ := stepOn_ok.mp passes
    obtain ⟨here, unshadowedBelow⟩ := unshadowed_map.mp unshadowed
    have reportedBelow : source.metadata.leadingKey ≠ "" := by
      intro none
      rw [metadata, none] at reported
      exact reported (Column.nameOf_empty columns)
    rw [← ih chain reportedBelow unshadowedBelow passed]
    exact Column.row_value? row reported here
  | unionAll sources => cases chain
  | groupBy key measures source => cases chain

end Plan

-- What a pull of a stream that stands on one feed comes to: the stream still stands on that feed, and the answer is made
-- of the last record that the feed gave.
structure Drawn {σ : Type} (on : Feed → σ → Prop) (make : Record → Except Failure (Option Record)) (feed : Feed)
    (cancelled : Bool) (pulled : Pulled σ) : Prop where
  stands : ∃ later, on later pulled.stream
  made : ∀ made, pulled.answer = .ok (some made) →
    ∃ earlier record later, Feed.pull.Gives feed cancelled (earlier ++ [record]) later pulled.cancelled ∧
      on later pulled.stream ∧ make record = .ok (some made)

def Pull.Draws {σ : Type} (next : Pull σ) (on : Feed → σ → Prop) (make : Record → Except Failure (Option Record)) : Prop :=
  ∀ feed stream cancelled, on feed stream → Drawn on make feed cancelled (next stream cancelled)

section

variable {σ τ : Type} {on : Feed → σ → Prop} {make : Record → Except Failure (Option Record)} {next : Pull σ}

theorem Drawn.silent {feed : Feed} {cancelled : Bool} {pulled : Pulled σ} (stands : ∃ later, on later pulled.stream)
    (silent : Answer.Silent pulled.answer) : Drawn on make feed cancelled pulled :=
  ⟨stands, fun made answered => absurd answered (silent made)⟩

theorem Drawn.map {kept : Feed → τ → Prop} {wrap : σ → τ} (wraps : ∀ feed stream, on feed stream → kept feed (wrap stream))
    {feed : Feed} {cancelled : Bool} {pulled : Pulled σ} (drawn : Drawn on make feed cancelled pulled) :
    Drawn kept make feed cancelled (pulled.map wrap) := by
  refine ⟨?_, ?_⟩
  · obtain ⟨later, stands⟩ := drawn.stands
    exact ⟨later, wraps later _ stands⟩
  · intro made answered
    obtain ⟨earlier, record, later, gives, stands, makes⟩ := drawn.made made answered
    exact ⟨earlier, record, later, gives, wraps later _ stands, makes⟩

theorem Pull.scan_draws (name : String) : (Pull.scan Feed.pull name).Draws Eq fun record => .ok (some record) := by
  rintro feed _ cancelled rfl
  unfold Pull.scan
  split
  · exact .silent ⟨feed, rfl⟩ (Answer.silent_error _)
  · refine ⟨⟨_, rfl⟩, ?_⟩
    intro made answered
    exact ⟨[], made, _, .record (Place.around_eq_ok.mp answered) .nothing, rfl, rfl⟩

theorem Pull.Draws.map (draws : next.Draws on make) (projection : Projection) :
    (Pull.map next projection).Draws on fun record =>
      make record >>= stepOn fun below => (projection.apply below).map some := by
  intro feed stream cancelled here
  have drawn := draws feed stream cancelled here
  unfold Pull.map
  split
  · exact .silent ⟨feed, here⟩ (Answer.silent_error _)
  · dsimp only
    split
    · rename_i below answer
      refine ⟨drawn.stands, ?_⟩
      intro made answered
      obtain ⟨earlier, record, later, gives, stands, makes⟩ := drawn.made below answer
      exact ⟨earlier, record, later, gives, stands, stepOn_ok.mpr ⟨below, makes, answered⟩⟩
    · rename_i silent
      exact .silent drawn.stands silent

theorem Pull.Draws.filter (draws : next.Draws on make) (predicate : Formula) (fuel : Nat) :
    (Pull.filter next predicate fuel).Draws on fun record => make record >>= stepOn predicate.keep := by
  intro feed stream cancelled here
  fun_induction Pull.filter next predicate fuel stream cancelled generalizing feed with
  | case1 => exact .silent ⟨feed, here⟩ (Answer.silent_error _)
  | case2 fuel stream cancelled running pulled below given failure failed =>
    exact .silent (draws feed stream cancelled here).stands (Answer.silent_error _)
  | case3 fuel stream cancelled running pulled below given kept =>
    have drawn := draws feed stream cancelled here
    refine ⟨drawn.stands, ?_⟩
    intro made answered
    obtain ⟨earlier, record, later, gives, stands, makes⟩ := drawn.made made answered
    cases given.symm.trans answered
    refine ⟨earlier, record, later, gives, stands, stepOn_ok.mpr ⟨below, makes, ?_⟩⟩
    simp [Formula.keep, kept, Except.map]
  | case4 stream cancelled running pulled below given verdict evaluated dropped =>
    exact .silent (draws feed stream cancelled here).stands (Answer.silent_error _)
  | case5 stream cancelled running pulled below given verdict evaluated dropped fuel ih =>
    have drawn := draws feed stream cancelled here
    obtain ⟨earlier, record, middle, gives, stands, _⟩ := drawn.made below given
    have rest := ih middle stands
    refine ⟨rest.stands, ?_⟩
    intro made answered
    obtain ⟨others, last, later, givesMore, standsLater, makes⟩ := rest.made made answered
    refine ⟨earlier ++ [record] ++ others, last, later, ?_, standsLater, makes⟩
    rw [List.append_assoc (earlier ++ [record])]
    exact gives.append givesMore
  | case6 fuel stream cancelled running pulled silent =>
    exact .silent (draws feed stream cancelled here).stands silent

end

namespace Plan

inductive RunsAs : Plan → Feed → Operator → Prop
  | scan (s : Scan) (feed : Feed) : RunsAs (.scan s) feed (.scan s.name feed)
  | filter {predicate : Expr} {formula : Formula} {source : Plan} {feed : Feed} {below : Operator}
      (resolved : predicate.resolve = .ok formula) (runs : RunsAs source feed below) :
      RunsAs (.filter predicate source) feed (.filter formula below)
  | map {columns : List Column} {formulas : List Formula} {projection : Projection} {source : Plan} {feed : Feed}
      {below : Operator} (resolved : Expr.resolveEach .planColumn 0 (columns.map (·.expr)) = .ok formulas)
      (made : Projection.make formulas (Column.names columns) = .ok projection) (runs : RunsAs source feed below) :
      RunsAs (.map columns source) feed (.map projection below)

theorem RunsAs.feeds {plan : Plan} {feed : Feed} {op : Operator} (runs : plan.RunsAs feed op) : op.feeds = [feed] := by
  induction runs <;> simp_all [Operator.feeds]

theorem runsAs_of_materialize {settings : Settings} {catalog after : Catalog} {plan : Plan} {s : Scan} {op : Operator}
    (chain : plan.chainScan? = some s) (compiled : plan.materialize settings catalog = .ok (op, after)) :
    ∃ feed, plan.RunsAs feed op := by
  induction plan using inductionOn generalizing op with
  | scan scanned =>
    obtain ⟨feed, _, rfl⟩ := materialize_scan.mp compiled
    exact ⟨feed, .scan scanned feed⟩
  | filter predicate source ih =>
    obtain ⟨below, compiledBelow, formula, resolved, rfl⟩ := materialize_filter.mp compiled
    obtain ⟨feed, runs⟩ := ih chain compiledBelow
    exact ⟨feed, .filter resolved runs⟩
  | map columns source ih =>
    obtain ⟨below, compiledBelow, formulas, resolved, projection, made, rfl⟩ := materialize_map.mp compiled
    obtain ⟨feed, runs⟩ := ih chain compiledBelow
    exact ⟨feed, .map resolved made runs⟩
  | unionAll sources => cases chain
  | groupBy key measures source => cases chain

theorem pull_draws (plan : Plan) : Operator.pull.Draws plan.RunsAs plan.pass := by
  intro feed op cancelled runs
  induction plan using inductionOn generalizing feed op cancelled with
  | scan s =>
    cases runs
    rw [Operator.pull_scan]
    refine (Pull.scan_draws s.name feed feed cancelled rfl).map ?_
    rintro feed _ rfl
    exact .scan s feed
  | filter predicate source ih =>
    obtain - | ⟨resolved, runs⟩ := runs
    have passes : (filter predicate source).pass = fun record => source.pass record >>= stepOn predicate.keep := rfl
    rw [Operator.pull_filter, passes, Expr.keep_eq resolved]
    exact (Pull.Draws.filter ih _ _ feed _ cancelled runs).map fun _ _ => .filter resolved
  | map columns source ih =>
    obtain - | - | ⟨resolved, made, runs⟩ := runs
    have passes : (map columns source).pass = fun record => source.pass record >>= stepOn (Column.row columns) := rfl
    rw [Operator.pull_map, passes, projection_row resolved made]
    exact (Pull.Draws.map ih _ feed _ cancelled runs).map fun _ _ => .map resolved made
  | unionAll sources => cases runs
  | groupBy key measures source => cases runs

theorem RunsAs.after {plan : Plan} {feed : Feed} {op : Operator} (runs : plan.RunsAs feed op) (signals : List Bool) :
    ∃ later, plan.RunsAs later (Operator.pull.after signals op) := by
  induction signals generalizing feed op with
  | nil => exact ⟨feed, runs⟩
  | cons cancelled signals ih =>
    obtain ⟨later, stands⟩ := (pull_draws plan feed op cancelled runs).stands
    exact ih stands

-- Where a chain of filters and projections reports a leading key, and no projection puts another column of that name
-- before it, every record that the chain makes has under the name reported what its record has under the leading key of
-- the scan; and every answer of the running chain is made so of the last record that its feed gave in that pull.
theorem leading_key_truthful (plan : Plan) (s : Scan) (chain : plan.chainScan? = some s)
    (reported : plan.metadata.leadingKey ≠ "") (unshadowed : plan.Unshadowed) :
    (∀ record made, plan.pass record = .ok (some made) →
      made.value? plan.metadata.leadingKey = record.value? s.leadingKey) ∧
    ∀ settings catalog op after, plan.materialize settings catalog = .ok (op, after) →
      ∀ signals cancelled made, (Operator.pull (Operator.pull.after signals op) cancelled).answer = .ok (some made) →
        ∃ feed earlier record later signal, (Operator.pull.after signals op).feeds = [feed] ∧
          Feed.pull.Gives feed cancelled (earlier ++ [record]) later signal ∧ plan.pass record = .ok (some made) ∧
          made.value? plan.metadata.leadingKey = record.value? s.leadingKey := by
  refine ⟨fun record made => pass_value? chain reported unshadowed, ?_⟩
  intro settings catalog op after compiled signals cancelled made answered
  obtain ⟨first, started⟩ := runsAs_of_materialize chain compiled
  obtain ⟨feed, runs⟩ := started.after signals
  obtain ⟨earlier, record, later, gives, _, passes⟩ := (pull_draws plan feed _ cancelled runs).made made answered
  exact ⟨feed, earlier, record, later, _, runs.feeds, gives, passes, pass_value? chain reported unshadowed passes⟩

def renamedTwice : Plan :=
  .map [⟨.variable "id", "v"⟩, ⟨.variable "key", ""⟩] <|
    .filter (.call ">" [.variable "key", .constant (.int 1)]) <|
      .map [⟨.variable "v", "id"⟩, ⟨.variable "id", "key"⟩] (.scan { name := "t", leadingKey := "id" })

def twoRows : Catalog where
  entries := [("t", .memory [⟨[("id", .int 1), ("v", .text "a")], .insert⟩, ⟨[("id", .int 2), ("v", .text "b")], .insert⟩])]

theorem leading_key_truthful_renamed :
    renamedTwice.chainScan? = some { name := "t", leadingKey := "id" } ∧ renamedTwice.metadata.leadingKey = "key" ∧
      ∃ op after, renamedTwice.materialize {} twoRows = .ok (op, after) ∧
        (Operator.pull op false).answer = .ok (some ⟨[("v", .text "b"), ("key", .int 2)], .insert⟩) ∧
        ∃ record : Record, renamedTwice.pass record = .ok (some ⟨[("v", .text "b"), ("key", .int 2)], .insert⟩) ∧
          record.value? "id" = some (.int 2) := by
  have unshadowed : renamedTwice.Unshadowed :=
    unshadowed_map.mpr ⟨by decide +kernel, unshadowed_filter.mpr (unshadowed_map.mpr ⟨by decide +kernel, unshadowed_scan⟩)⟩
  refine ⟨rfl, by decide +kernel, _, _, rfl, by decide +kernel, ?_⟩
  obtain ⟨feed, earlier, record, later, signal, _, _, passes, same⟩ :=
    (leading_key_truthful renamedTwice { name := "t", leadingKey := "id" } rfl (by decide +kernel) unshadowed).2
      {} twoRows _ _ rfl [] false ⟨[("v", .text "b"), ("key", .int 2)], .insert⟩ (by decide +kernel)
  exact ⟨record, passes, same.symm⟩

def shadowedKey : Plan :=
  .map [⟨.variable "v", "id"⟩, ⟨.variable "id", ""⟩] (.scan { name := "t", leadingKey := "id" })

-- The plan reports the key under a name that finds another column.
theorem leading_key_shadowed :
    shadowedKey.chainScan? = some { name := "t", leadingKey := "id" } ∧ shadowedKey.metadata.leadingKey = "id" ∧
      shadowedKey.pass ⟨[("id", .int 1), ("v", .int 2)], .insert⟩ =
        .ok (some ⟨[("id", .int 2), ("id", .int 1)], .insert⟩) ∧
      (⟨[("id", .int 2), ("id", .int 1)], .insert⟩ : Record).value? "id" ≠
        (⟨[("id", .int 1), ("v", .int 2)], .insert⟩ : Record).value? "id" := by
  decide +kernel

end Plan

end DeltaQuery
