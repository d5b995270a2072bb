import DeltaQuery.Proofs.Mirrors
import DeltaQuery.Proofs.OrderlyRuns

namespace DeltaQuery

-- When the run is called off around and within one pull of a stage. The streams below it are numbered, and so are the
-- pulls of each of them. A stage looks each time before it pulls what is below it, so there are no other moments.
inductive Moments
  | never
  | moments (before after : Bool) (within : Nat → Nat → Moments)

namespace Moments

def before : Moments → Bool
  | .never => false
  | .moments before _ _ => before

def after : Moments → Bool
  | .never => false
  | .moments _ after _ => after

def within : Moments → Nat → Nat → Moments
  | .never => fun _ _ => .never
  | .moments _ _ within => within

end Moments

structure Timed (σ : Type) where
  stream : σ
  moments : Nat → Moments

def Timed.pull {σ : Type} (next : Moments → Pull σ) : Pull (Timed σ) := fun timed cancelled =>
  let moments := timed.moments 0
  let pulled := next moments timed.stream (cancelled || moments.before)
  { answer := pulled.answer
    stream := ⟨pulled.stream, fun index => timed.moments (index + 1)⟩
    cancelled := pulled.cancelled || moments.after }

def Timed.each {σ : Type} (moments : Nat → Nat → Moments) (streams : List σ) : List (Timed σ) :=
  streams.mapIdx fun i stream => ⟨stream, moments i⟩

@[simp]
theorem Timed.streams_each {σ : Type} (moments : Nat → Nat → Moments) (streams : List σ) :
    (each moments streams).map (·.stream) = streams := by
  exact List.ext_getElem (by simp [each]) fun i inside _ => by simp [each]

theorem Timed.stream_mem_of_each {σ : Type} {moments : Nat → Nat → Moments} {streams : List σ} {timed : Timed σ}
    (member : timed ∈ each moments streams) : timed.stream ∈ streams := by
  have inside := List.mem_map_of_mem (f := Timed.stream) member
  rwa [streams_each] at inside

@[simp]
theorem Timed.length_each {σ : Type} (moments : Nat → Nat → Moments) (streams : List σ) :
    (each moments streams).length = streams.length := by
  simp [each]

namespace Operator

-- A pull of an operator of at most this depth, with the run called off at these moments.
def pullAtTimed : (depth : Nat) → Moments → Pull Operator
  | _, _, .feed f, cancelled => (f.pull cancelled).map .feed
  | _, _, .scan name f, cancelled => (Pull.scan Feed.pull name f cancelled).map (.scan name)
  | 0, _, op, cancelled => { answer := .error (Failure.of .endlessStream), stream := op, cancelled }
  | depth + 1, moments, .filter predicate source, cancelled =>
    (Pull.filter (Timed.pull (pullAtTimed depth)) predicate source.remaining ⟨source, moments.within 0⟩ cancelled).map
      fun timed => .filter predicate timed.stream
  | depth + 1, moments, .map projection source, cancelled =>
    (Pull.map (Timed.pull (pullAtTimed depth)) projection ⟨source, moments.within 0⟩ cancelled).map
      fun timed => .map projection timed.stream
  | depth + 1, moments, .unionAll children cursor, cancelled =>
    (Rotation.pull (Timed.pull (pullAtTimed depth)) ⟨Timed.each moments.within children, cursor⟩ cancelled).map
      fun rotation => .unionAll (rotation.streams.map (·.stream)) rotation.cursor
  | depth + 1, moments, .groupBy grouping source, cancelled =>
    (Grouped.pull (Timed.pull (pullAtTimed depth)) (fun timed => timed.stream.remaining)
      ⟨grouping, ⟨source, moments.within 0⟩⟩ cancelled).map fun grouped => .groupBy grouped.grouping grouped.source.stream

def pullTimed (moments : Moments) : Pull Operator := fun op cancelled => pullAtTimed op.depth moments op cancelled

end Operator

-- A run that is called off at these moments: those of each pull of the operator, and those within it.
def Pipeline.runTimed {τ : Type} (sink : Sink τ) (op : Operator) (moments : Nat → Moments) (output : τ) :
    Except Failure Nat × τ :=
  runFrom (Timed.pull Operator.pullTimed) sink op.remaining ⟨op, moments⟩ false output 0

def Timed.Quiet {σ : Type} (timed : Timed σ) (stream : σ) : Prop := timed = ⟨stream, fun _ => .never⟩

theorem Timed.mirrors {σ : Type} {next : Moments → Pull σ} {other : Pull σ} (same : next .never = other) :
    (Timed.pull next).Mirrors other Eq Timed.Quiet := by
  rintro _ stream cancelled rfl
  subst same
  simp only [Timed.pull, Moments.before, Moments.after, Bool.or_false]
  exact ⟨.refl _, rfl, rfl⟩

namespace Operator

theorem quietEach (children : List Operator) :
    List.Forall₂ Timed.Quiet (Timed.each Moments.never.within children) children := by
  refine List.forall₂_iff_get.mpr ⟨by simp [Timed.each], fun i inside _ => ?_⟩
  simp only [Timed.each, List.get_eq_getElem, List.getElem_mapIdx]
  rfl

theorem quietEach_eq {timed : List (Timed Operator)} {children : List Operator}
    (quiet : List.Forall₂ Timed.Quiet timed children) : timed.map (·.stream) = children := by
  induction quiet with
  | nil => rfl
  | cons first rest ih => rw [List.map_cons, ih, first]

theorem pullAtTimed_never (depth : Nat) : pullAtTimed depth .never = pullAt depth := by
  induction depth with
  | zero =>
    funext op cancelled
    cases op <;> simp only [pullAtTimed, pullAt]
  | succ depth ih =>
    have mirrors := Timed.mirrors ih
    funext op cancelled
    cases op with
    | feed f => simp only [pullAtTimed, pullAt]
    | scan name f => simp only [pullAtTimed, pullAt]
    | filter predicate source =>
      rw [pullAtTimed, pullAt]
      exact (mirrors.filter (predicate.alike_refl) _ _ source cancelled rfl).map_eq fun _ _ quiet => by rw [quiet]
    | map projection source =>
      rw [pullAtTimed, pullAt]
      exact (mirrors.map ⟨rfl, Formula.forall₂_alike_refl _⟩ _ source cancelled rfl).map_eq fun _ _ quiet => by rw [quiet]
    | unionAll children cursor =>
      rw [pullAtTimed, pullAt, Rotation.pull, Rotation.pull]
      rw [← (quietEach children).length_eq]
      refine (mirrors.union _ _ ⟨children, cursor⟩ cancelled ⟨rfl, quietEach children⟩).map_eq ?_
      exact fun timed rotation quiet => by rw [quietEach_eq quiet.streams, quiet.cursor]
    | groupBy grouping source =>
      rw [pullAtTimed, pullAt]
      have bound : ∀ (timed : Timed Operator) op, timed.Quiet op → timed.stream.remaining = op.remaining :=
        fun _ _ quiet => by rw [quiet]
      exact (mirrors.grouped_same bound grouping cancelled rfl).map_eq fun _ _ same => by rw [same.1, same.2]

theorem pullTimed_never : pullTimed .never = pull := by
  funext op cancelled
  rw [pullTimed, pullAtTimed_never, pull]

end Operator

-- Without any such moment, this is the run of the operator.
theorem Pipeline.runTimed_never {τ : Type} (sink : Sink τ) (op : Operator) (output : τ) :
    runTimed sink op (fun _ => .never) output = run sink op output := by
  have mirrors := Timed.mirrors Operator.pullTimed_never
  have quiet : Timed.Quiet ⟨op, fun _ => .never⟩ op := rfl
  obtain ⟨result, written⟩ := mirrors.runFrom sink op.remaining false output 0 quiet
  exact Prod.ext result.eq written

namespace Operator

-- Functions have their arguments, and no grouping has failed.
inductive Sound : Operator → Prop
  | feed (f : Feed) : Sound (.feed f)
  | scan (name : String) (f : Feed) : Sound (.scan name f)
  | filter {predicate : Formula} {source : Operator} (callable : predicate.Callable) (below : Sound source) :
      Sound (.filter predicate source)
  | map {projection : Projection} {source : Operator} (callable : ∀ formula ∈ projection.formulas, formula.Callable)
      (below : Sound source) : Sound (.map projection source)
  | unionAll (cursor : Nat) {children : List Operator} (below : ∀ child ∈ children, Sound child) :
      Sound (.unionAll children cursor)
  | groupBy {grouping : Grouping} {source : Operator} (callable : ∀ formula ∈ grouping.spec.key, formula.Callable)
      (running : grouping.phase ≠ .failed) (below : Sound source) : Sound (.groupBy grouping source)

end Operator

theorem Timed.pull_orderly {σ : Type} {next : Moments → Pull σ} {sound : σ → Prop}
    (orderly : ∀ moments, (next moments).Orderly sound) : (Timed.pull next).Orderly fun timed => sound timed.stream := by
  intro timed cancelled here
  obtain ⟨kinds, stays⟩ := orderly (timed.moments 0) timed.stream (cancelled || (timed.moments 0).before) here
  exact ⟨kinds, stays⟩

theorem Timed.pull_bounds {σ : Type} {next : Moments → Pull σ} {left : σ → Nat}
    (bounds : ∀ moments, (next moments).Bounds left) : (Timed.pull next).Bounds fun timed => left timed.stream :=
  fun timed cancelled => bounds (timed.moments 0) timed.stream (cancelled || (timed.moments 0).before)

namespace Operator

theorem pullAtTimed_bounds (depth : Nat) (moments : Moments) : (pullAtTimed depth moments).Bounds remaining := by
  induction depth generalizing moments with
  | zero =>
    intro op cancelled
    cases op with
    | feed f => simpa only [pullAtTimed, Pulled.map, remaining] using Feed.pull_bounds f cancelled
    | scan name f => simpa only [pullAtTimed, Pulled.map, remaining] using Feed.pull_bounds.scan name f cancelled
    | _ => exact Nat.le_refl _
  | succ depth ih =>
    have bounds := Timed.pull_bounds ih
    intro op cancelled
    cases op with
    | feed f => simpa only [pullAtTimed, Pulled.map, remaining] using Feed.pull_bounds f cancelled
    | scan name f => simpa only [pullAtTimed, Pulled.map, remaining] using Feed.pull_bounds.scan name f cancelled
    | filter predicate source =>
      simpa only [pullAtTimed, Pulled.map, remaining] using bounds.filter predicate source.remaining _ cancelled
    | map projection source =>
      simpa only [pullAtTimed, Pulled.map, remaining] using bounds.map projection _ cancelled
    | unionAll children cursor =>
      have step := bounds.union children.length ⟨Timed.each moments.within children, cursor⟩ cancelled
      have streams (timed : List (Timed Operator)) :
          (timed.map fun timed => timed.stream.remaining) = (timed.map (·.stream)).map remaining := by simp
      simp only [streams, Timed.streams_each] at step
      simpa only [pullAtTimed, Pulled.map, remaining, remainingOfAll_eq, Rotation.pull, Timed.length_each] using step
    | groupBy grouping source =>
      simpa only [pullAtTimed, Pulled.map, remaining, Pull.Bounds.rowsLeft] using
        bounds.grouped (fun timed => timed.stream.remaining) ⟨grouping, ⟨source, moments.within 0⟩⟩ cancelled

theorem pullAtTimed_orderly (depth : Nat) (moments : Moments) :
    (pullAtTimed depth moments).Orderly fun op => op.Sound ∧ op.depth ≤ depth := by
  induction depth generalizing moments with
  | zero =>
    rintro op cancelled ⟨sound, shallow⟩
    cases sound with
    | feed f =>
      simp only [pullAtTimed]
      exact (Feed.pull_orderly f cancelled trivial).map fun f _ => ⟨.feed f, Nat.zero_le _⟩
    | scan name f =>
      simp only [pullAtTimed]
      exact (Feed.pull_orderly.scan name f cancelled trivial).map fun f _ => ⟨.scan name f, Nat.zero_le _⟩
    | _ => simp [Operator.depth] at shallow
  | succ depth ih =>
    have orderly := Timed.pull_orderly ih
    have bounds := Timed.pull_bounds (pullAtTimed_bounds depth)
    rintro op cancelled ⟨sound, shallow⟩
    cases sound with
    | feed f =>
      simp only [pullAtTimed]
      exact (Feed.pull_orderly f cancelled trivial).map fun f _ => ⟨.feed f, Nat.zero_le _⟩
    | scan name f =>
      simp only [pullAtTimed]
      exact (Feed.pull_orderly.scan name f cancelled trivial).map fun f _ => ⟨.scan name f, Nat.zero_le _⟩
    | @filter predicate source callable below =>
      rw [Operator.depth, Nat.succ_le_succ_iff] at shallow
      simp only [pullAtTimed]
      have pulled : (Pull.filter (Timed.pull (pullAtTimed depth)) predicate source.remaining ⟨source, moments.within 0⟩
          cancelled).Orderly _ := orderly.filter bounds callable cancelled (Nat.le_refl _) ⟨below, shallow⟩
      exact pulled.map fun timed still => ⟨.filter callable still.1, Nat.succ_le_succ still.2⟩
    | @map projection source callable below =>
      rw [Operator.depth, Nat.succ_le_succ_iff] at shallow
      simp only [pullAtTimed]
      have pulled := orderly.map callable ⟨source, moments.within 0⟩ cancelled ⟨below, shallow⟩
      exact pulled.map fun timed still => ⟨.map callable still.1, Nat.succ_le_succ still.2⟩
    | @unionAll cursor children below =>
      rw [Operator.depth, Nat.succ_le_succ_iff, depthOfAll_le_iff] at shallow
      simp only [pullAtTimed]
      have each : ∀ timed ∈ Timed.each moments.within children, timed.stream.Sound ∧ timed.stream.depth ≤ depth := by
        intro timed member
        exact ⟨below _ (Timed.stream_mem_of_each member), shallow _ (Timed.stream_mem_of_each member)⟩
      have pulled := orderly.union (Timed.each moments.within children).length ⟨_, cursor⟩ cancelled each
      refine pulled.map fun rotation still => ⟨.unionAll _ ?_, Nat.succ_le_succ (depthOfAll_le_iff.mpr ?_)⟩
      · exact List.forall_mem_map.mpr fun timed member => (still timed member).1
      · exact List.forall_mem_map.mpr fun timed member => (still timed member).2
    | @groupBy grouping source callable running below =>
      rw [Operator.depth, Nat.succ_le_succ_iff] at shallow
      simp only [pullAtTimed]
      have pulled := orderly.grouped bounds ⟨grouping, ⟨source, moments.within 0⟩⟩ cancelled
        ⟨callable, running, below, shallow⟩
      exact pulled.map fun grouped still =>
        ⟨.groupBy still.callable still.running still.source.1, Nat.succ_le_succ still.source.2⟩

theorem pullTimed_orderly (moments : Moments) : (pullTimed moments).Orderly Sound := by
  intro op cancelled sound
  obtain ⟨kinds, stays⟩ := pullAtTimed_orderly op.depth moments op cancelled ⟨sound, Nat.le_refl _⟩
  exact ⟨kinds, fun given answer => (stays given answer).1⟩

theorem pullTimed_bounds (moments : Moments) : (pullTimed moments).Bounds remaining :=
  fun op cancelled => pullAtTimed_bounds op.depth moments op cancelled

end Operator

theorem Pipeline.runTimed_fails {τ : Type} {sink : Sink τ} {ready : τ → Prop} (sinking : sink.Orderly ready) {op : Operator}
    (sound : op.Sound) (moments : Nat → Moments) {output : τ} (isReady : ready output) :
    FailsIn (FailureKind.pulling ++ [.io]) (runTimed sink op moments output).1 :=
  runFrom_fails (Timed.pull_orderly Operator.pullTimed_orderly) (Timed.pull_bounds Operator.pullTimed_bounds) sinking false 0
    (Nat.le_refl _) sound isReady

namespace Plan

theorem materializeFrom_sound {settings : Settings} {plans : List Plan}
    (each : ∀ plan ∈ plans, ∀ catalog op after, plan.materialize settings catalog = .ok (op, after) → op.Sound)
    {index : Nat} {catalog after : Catalog} {children : List Operator}
    (compiled : materializeFrom settings index plans catalog = .ok (children, after)) : ∀ child ∈ children, child.Sound := by
  induction plans generalizing index catalog children with
  | nil =>
    cases compiled
    exact nofun
  | cons plan plans ih =>
    obtain ⟨child, middle, first, others, rest, rfl⟩ := materializeFrom_cons.mp compiled
    exact List.forall_mem_cons.mpr ⟨each plan List.mem_cons_self _ _ _ first,
      ih (fun plan member => each plan (List.mem_cons_of_mem _ member)) rest⟩

theorem materialize_sound {settings : Settings} {plan : Plan} {catalog after : Catalog} {op : Operator}
    (compiled : plan.materialize settings catalog = .ok (op, after)) : op.Sound := by
  induction plan using inductionOn generalizing catalog after op with
  | scan s =>
    obtain ⟨feed, _, rfl⟩ := materialize_scan.mp compiled
    exact .scan s.name feed
  | filter predicate source ih =>
    obtain ⟨below, sourceCompiled, formula, resolved, rfl⟩ := materialize_filter.mp compiled
    exact .filter (Expr.callable_of_resolve resolved) (ih sourceCompiled)
  | map columns source ih =>
    obtain ⟨below, sourceCompiled, formulas, resolved, projection, made, rfl⟩ := materialize_map.mp compiled
    obtain ⟨rfl, names⟩ := Projection.make_eq_ok.mp made
    exact .map (Expr.callable_of_resolveEach resolved) (ih sourceCompiled)
  | unionAll sources ih =>
    obtain ⟨children, childrenCompiled, rfl⟩ := materialize_unionAll.mp compiled
    exact .unionAll 0 (materializeFrom_sound (fun source member _ _ _ => ih source member) childrenCompiled)
  | groupBy key measures source ih =>
    obtain ⟨_, below, sourceCompiled, formulas, resolved, spec, made, rfl⟩ := materialize_groupBy.mp compiled
    obtain rfl := GroupSpec.key_of_make made
    exact .groupBy (Expr.callable_of_resolveEach resolved) (by simp) (ih sourceCompiled)

-- Failures keep their kind from end to end. A plan that does not compile fails in compiling; a run of what it compiles to,
-- called off at any moment or never, fails because a record does not evaluate or a retraction is of what is not there,
-- because it was called off, or for the writer of its sink.
theorem failures_keep_kind (environment : Environment) (plan : Plan) :
    (∀ failure, plan.compile environment = .error failure → failure.kind = .compilation) ∧
    (∀ (τ : Type) (sink : Sink τ) (op : Operator) (output : τ),
      Pipeline.runTimed sink op (fun _ => .never) output = Pipeline.run sink op output) ∧
    ∀ op after, plan.compile environment = .ok (op, after) → ∀ (moments : Nat → Moments) (failure : Failure),
      ((Pipeline.runTimed Collected.sink op moments {}).1 = .error failure →
        failure.kind ∈ [.evaluation, .retraction, .cancelled, .io]) ∧
      ∀ writer : Writer, (Pipeline.runTimed JsonArray.sink op moments { writer }).1 = .error failure →
        failure.kind ∈ [.evaluation, .retraction, .cancelled, .io] := by
  refine ⟨?_, fun τ sink op output => Pipeline.runTimed_never sink op output, ?_⟩
  · intro failure failed
    simpa using compile_fails environment plan failure failed
  · intro op after compiled moments failure
    have sound := materialize_sound (Place.around_eq_ok.mp compiled)
    exact ⟨Pipeline.runTimed_fails Collected.sink_orderly sound moments trivial failure,
      fun writer => Pipeline.runTimed_fails JsonArray.sink_orderly sound moments rfl failure⟩

-- A total over a list of two records, with the run called off between them.
theorem failures_keep_kind_between_records :
    let environment : Environment :=
      { settings := { emitMode := .final }
        sources := ⟨[("list", .memory [⟨[("v", .int 1)], .insert⟩, ⟨[("v", .int 2)], .insert⟩])]⟩ }
    let plan : Plan := .groupBy [] [⟨"v", .sum, "total"⟩] (.scan { name := "list" })
    let between : Moments := .moments false false fun _ pull => .moments (pull == 1) false fun _ _ => .never
    let failure := (Failure.of (.stopped .scan)).within .nextRecord
    ∃ op after, plan.compile environment = .ok (op, after) ∧
      (Pipeline.runTimed JsonArray.sink op (fun _ => between) {}).1 = .error failure ∧
      failure.kind ∈ [.evaluation, .retraction, .cancelled, .io] := by
  intro environment plan between failure
  obtain ⟨compiling, never, running⟩ := failures_keep_kind environment plan
  refine ⟨_, _, rfl, by decide +kernel, ?_⟩
  exact (running _ _ rfl (fun _ => between) failure).2 {} (by decide +kernel)

end Plan

end DeltaQuery
