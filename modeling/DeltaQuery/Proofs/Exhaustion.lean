import DeltaQuery.Proofs.Listing

namespace DeltaQuery

variable {σ : Type} {next : Pull σ} {among : σ → Prop} {stream : σ}

namespace Pull

-- A pull gives the end and leaves the stream as it is.
def Exhausted (next : Pull σ) (stream : σ) : Prop := next stream false = ⟨.ok none, stream, false⟩

theorem Exhausted.answers (exhausted : next.Exhausted stream) (count : Nat) :
    next.answers (List.replicate count false) stream = List.replicate count (.ok none) := by
  induction count with
  | zero => rfl
  | succ count ih => rw [List.replicate_succ, Pull.answers, exhausted, ih, List.replicate_succ]

-- What a pull comes to that does not call the run off: a stream of the same sort, which is exhausted if it has ended.
structure Settles (next : Pull σ) (among : σ → Prop) (pulled : Pulled σ) : Prop where
  stays : among pulled.stream
  running : pulled.cancelled = false
  exhausted : pulled.answer = .ok none → next.Exhausted pulled.stream

def Rests (next : Pull σ) (among : σ → Prop) : Prop :=
  ∀ stream, among stream → next.Settles among (next stream false)

theorem Rests.within {τ : Type} {outer : Pull τ} {kept : τ → Prop} {wrap : σ → τ} (rests : next.Rests among)
    (pulled : ∀ stream, outer (wrap stream) false = (next stream false).map wrap)
    (inside : ∀ stream, among stream → kept (wrap stream)) (stream : σ) (here : among stream) :
    outer.Settles kept (outer (wrap stream) false) := by
  have settles := rests stream here
  rw [pulled]
  refine ⟨inside _ settles.stays, settles.running, fun ended => ?_⟩
  unfold Exhausted
  rw [Pulled.map, pulled, settles.exhausted ended]
  rfl

theorem Runs.exhausted (rests : next.Rests among) (inside : among stream) {records : List Record}
    (runs : next.Runs stream records (.ok ())) :
    next.Exhausted (next.after (List.replicate (records.length + 1) false) stream) := by
  induction records generalizing stream with
  | nil =>
    cases runs with
    | ended answer => exact (rests stream inside).exhausted answer
  | cons record records ih =>
    cases runs with
    | record answer running rest => exact ih (rests stream inside).stays rest

theorem scan_rests (rests : next.Rests among) (name : String) : (Pull.scan next name).Rests among := by
  intro stream inside
  have settles := rests stream inside
  refine ⟨settles.stays, settles.running, ?_⟩
  intro ended
  have below : (next stream false).answer = .ok none := by
    cases answer : (next stream false).answer with
    | error failure => simp [Pull.scan, answer] at ended
    | ok given => simpa [Pull.scan, answer] using ended
  have exhausted := settles.exhausted below
  unfold Exhausted at exhausted ⊢
  simp [Pull.scan, exhausted]

theorem map_rests (rests : next.Rests among) (projection : Projection) : (Pull.map next projection).Rests among := by
  intro stream inside
  have settles := rests stream inside
  cases answer : (next stream false).answer with
  | error failure =>
    have pulled : Pull.map next projection stream false = next stream false := by simp [Pull.map, answer]
    rw [pulled]
    refine ⟨settles.stays, settles.running, fun ended => ?_⟩
    cases answer.symm.trans ended
  | ok given =>
    cases given with
    | none =>
      have pulled : Pull.map next projection stream false = next stream false := by simp [Pull.map, answer]
      rw [pulled]
      refine ⟨settles.stays, settles.running, fun _ => ?_⟩
      have exhausted := settles.exhausted answer
      unfold Exhausted at exhausted ⊢
      simp [Pull.map, exhausted]
    | some record =>
      have pulled : Pull.map next projection stream false =
          { next stream false with answer := (projection.apply record).map some } := by simp [Pull.map, answer]
      rw [pulled]
      refine ⟨settles.stays, settles.running, fun ended => ?_⟩
      cases applied : projection.apply record <;> simp [applied, Except.map] at ended

-- However many records a filter drops on the way, its pull settles as the last one below does.
theorem filter_settles (rests : next.Rests among) (predicate : Formula) (fuel : Nat) (inside : among stream) :
    next.Settles among (Pull.filter next predicate fuel stream false) := by
  induction fuel generalizing stream with
  | zero =>
    rcases filter_once next predicate 0 stream with ⟨answer, pulled, ended⟩ | ⟨less, fuel, _⟩
    · have settles := rests stream inside
      rw [pulled]
      exact ⟨settles.stays, settles.running, fun none => settles.exhausted (ended none)⟩
    · cases fuel
  | succ fuel ih =>
    have settles := rests stream inside
    rcases filter_once next predicate (fuel + 1) stream with ⟨answer, pulled, ended⟩ | ⟨less, enough, pulled⟩
    · rw [pulled]
      exact ⟨settles.stays, settles.running, fun none => settles.exhausted (ended none)⟩
    · cases enough
      rw [pulled, settles.running]
      exact ih settles.stays

theorem filter_rests (rests : next.Rests among) (predicate : Formula) (fuel : σ → Nat) :
    Pull.Rests (fun stream => Pull.filter next predicate (fuel stream) stream) among := by
  intro stream inside
  have settles := filter_settles rests predicate (fuel stream) inside
  refine ⟨settles.stays, settles.running, fun ended => ?_⟩
  have exhausted := settles.exhausted ended
  exact (filter_of_end (by rw [exhausted]) _).trans exhausted

theorem union_rests (rests : next.Rests among) :
    (Rotation.pull next).Rests fun rotation => ∀ stream ∈ rotation.streams, among stream := by
  rintro ⟨streams, cursor⟩ inside
  generalize size : streams.length = length
  induction length generalizing streams cursor with
  | zero =>
    cases List.length_eq_zero_iff.mp size
    exact ⟨inside, rfl, fun _ => rfl⟩
  | succ length ih =>
    rcases rotation_cases streams cursor with rfl | ⟨before, stream, after, rfl, turn⟩
    · cases size
    · obtain ⟨earlier, here, later⟩ : (∀ stream ∈ before, among stream) ∧ among stream ∧ ∀ stream ∈ after, among stream := by
        simpa only [List.forall_mem_append, List.forall_mem_cons] using inside
      have settles := rests stream here
      have advanced : ∀ other ∈ before ++ (next stream false).stream :: after, among other :=
        List.forall_mem_append.mpr ⟨earlier, List.forall_mem_cons.mpr ⟨settles.stays, later⟩⟩
      rw [rotation_turn turn]
      cases answer : (next stream false).answer with
      | error failure => exact ⟨advanced, settles.running, nofun⟩
      | ok given =>
        cases given with
        | none =>
          dsimp only
          rw [settles.running]
          exact ih _ _ (List.forall_mem_append.mpr ⟨earlier, later⟩) (by simp at size ⊢; omega)
        | some record => exact ⟨advanced, settles.running, nofun⟩

end Pull

namespace Operator

inductive InMemory : Operator → Prop
  | scan (name : String) (pending : List Record) : InMemory (.scan name (.replay pending))
  | filter (predicate : Formula) {source : Operator} (below : InMemory source) : InMemory (.filter predicate source)
  | map (projection : Projection) {source : Operator} (below : InMemory source) : InMemory (.map projection source)
  | unionAll (cursor : Nat) {children : List Operator} (below : ∀ child ∈ children, InMemory child) :
    InMemory (.unionAll children cursor)

theorem replay_rests : Feed.pull.Rests fun feed => ∃ pending, feed = .replay pending := by
  rintro _ ⟨pending, rfl⟩
  refine ⟨⟨pending.tail, rfl⟩, rfl, ?_⟩
  cases pending with
  | nil => exact fun _ => rfl
  | cons record pending => exact nofun

theorem scan_settles (name : String) (pending : List Record) (bound : Nat) :
    pull.Settles (fun op => InMemory op ∧ op.depth ≤ bound) (pull (.scan name (.replay pending)) false) := by
  refine (Pull.scan_rests replay_rests name).within (fun feed => pull_scan name feed false) ?_ _ ⟨pending, rfl⟩
  rintro _ ⟨pending, rfl⟩
  exact ⟨.scan name pending, Nat.zero_le bound⟩

theorem pull_rests_below (bound : Nat) : pull.Rests fun op => InMemory op ∧ op.depth ≤ bound := by
  induction bound with
  | zero =>
    rintro _ ⟨inside, flat⟩
    cases inside with
    | scan name pending => exact scan_settles name pending 0
    | _ => simp [depth] at flat
  | succ bound ih =>
    rintro _ ⟨inside, shallow⟩
    cases inside with
    | scan name pending => exact scan_settles name pending (bound + 1)
    | @filter predicate source below =>
      rw [depth] at shallow
      refine (Pull.filter_rests ih predicate remaining).within (fun source => pull_filter predicate source false) ?_ _
        ⟨below, by omega⟩
      rintro source ⟨below, less⟩
      exact ⟨.filter predicate below, Nat.succ_le_succ less⟩
    | @map projection source below =>
      rw [depth] at shallow
      refine (Pull.map_rests ih projection).within (fun source => pull_map projection source false) ?_ _ ⟨below, by omega⟩
      rintro source ⟨below, less⟩
      exact ⟨.map projection below, Nat.succ_le_succ less⟩
    | @unionAll cursor children below =>
      rw [depth] at shallow
      have less : depthOfAll children ≤ bound := by omega
      have pulled (rotation : Rotation Operator) := pull_unionAll rotation.streams rotation.cursor false
      refine (Pull.union_rests ih).within pulled ?_ ⟨children, cursor⟩ fun child member =>
        ⟨below child member, depthOfAll_le_iff.mp less child member⟩
      rintro ⟨children, cursor⟩ all
      exact ⟨.unionAll cursor fun child member => (all child member).1,
        Nat.succ_le_succ (depthOfAll_le_iff.mpr fun child member => (all child member).2)⟩

theorem pull_rests : pull.Rests InMemory := by
  intro op inside
  have settles := pull_rests_below op.depth op ⟨inside, Nat.le_refl op.depth⟩
  exact ⟨settles.stays.1, settles.running, settles.exhausted⟩

end Operator

end DeltaQuery
