import DeltaQuery.Proofs.Table
import DeltaQuery.Stream.Feed
import DeltaQuery.Stream.Grouping

namespace DeltaQuery

variable {σ : Type}

namespace Pull

-- The answers of pulls one after the other, each when the run has or has not been called off.
def answers (next : Pull σ) : List Bool → σ → List Answer
  | [], _ => []
  | cancelled :: signals, stream =>
    (next stream cancelled).answer :: answers next signals (next stream cancelled).stream

def after (next : Pull σ) : List Bool → σ → σ
  | [], stream => stream
  | cancelled :: signals, stream => after next signals (next stream cancelled).stream

inductive Gives (next : Pull σ) : σ → Bool → List Record → σ → Bool → Prop
  | nothing {stream : σ} {cancelled : Bool} : Gives next stream cancelled [] stream cancelled
  | record {stream last : σ} {cancelled signal : Bool} {record : Record} {records : List Record}
      (answer : (next stream cancelled).answer = .ok (some record))
      (rest : Gives next (next stream cancelled).stream (next stream cancelled).cancelled records last signal) :
      Gives next stream cancelled (record :: records) last signal

theorem Gives.append {next : Pull σ} {stream middle last : σ} {cancelled signal final : Bool} {records more : List Record}
    (gives : Gives next stream cancelled records middle signal) (later : Gives next middle signal more last final) :
    Gives next stream cancelled (records ++ more) last final := by
  induction gives with
  | nothing => exact later
  | record answer rest ih => exact .record answer (ih later)

theorem Gives.stays {next : Pull σ} {stream last : σ} {cancelled signal : Bool} {records : List Record}
    {among : σ → Prop} (gives : Gives next stream cancelled records last signal)
    (stays : ∀ stream cancelled, among stream → among (next stream cancelled).stream) (inside : among stream) :
    among last := by
  induction gives with
  | nothing => exact inside
  | @record stream last cancelled signal record records answer rest ih => exact ih (stays stream cancelled inside)

end Pull

namespace Grouped

variable {next : Pull σ} {grouped : Grouped σ} {cancelled : Bool}

def taken (grouped : Grouped σ) (table : GroupTable) (source : σ) : Grouped σ :=
  { grouping := { grouped.grouping with table }, source }

inductive Drained (grouped : Grouped σ) (cancelled : Bool) : Pulled (Grouped σ) → Prop
  | finished : Drained grouped cancelled ⟨.ok none, grouped.inPhase .closed, cancelled⟩
  | stopped (calledOff : cancelled = true) :
      Drained grouped cancelled (grouped.fail (Failure.of (.stopped .groupBy)) cancelled)
  | row {slot : Nat} {group : Group} {row : Record}
      (found : grouped.grouping.table.liveFrom? grouped.grouping.drained = some (slot, group))
      (built : group.row grouped.grouping.spec .insert = .ok row) :
      Drained grouped cancelled
        ⟨.ok (some row), { grouped with grouping := { grouped.grouping with drained := slot + 1 } }, cancelled⟩

theorem drain_cases (grouped : Grouped σ) (cancelled : Bool) : Drained grouped cancelled (grouped.drain cancelled) := by
  unfold drain
  dsimp only
  split
  · exact .finished
  · split
    · rename_i calledOff
      exact .stopped calledOff
    · split
      · exact .finished
      · rename_i slot group found
        obtain ⟨row, built⟩ := group.row_exists grouped.grouping.spec .insert
        rw [built]
        exact .row found built

-- How a pull ends, from the last accepted record on.
inductive Ending (next : Pull σ) (grouped : Grouped σ) (cancelled : Bool) : Pulled (Grouped σ) → Prop
  | stopped (calledOff : cancelled = true) :
      Ending next grouped cancelled (grouped.fail (Failure.of (.stopped .groupBy)) cancelled)
  | failed {failure : Failure} (answer : (next grouped.source cancelled).answer = .error failure) :
      Ending next grouped cancelled
        ((grouped.taken grouped.grouping.table (next grouped.source cancelled).stream).fail failure
          (next grouped.source cancelled).cancelled)
  | ended (answer : (next grouped.source cancelled).answer = .ok none) :
      Ending next grouped cancelled
        (((grouped.taken grouped.grouping.table (next grouped.source cancelled).stream).inPhase .draining).drain
          (next grouped.source cancelled).cancelled)
  | rejected {record : Record} {failure : Failure}
      (answer : (next grouped.source cancelled).answer = .ok (some record))
      (rejection : (grouped.grouping.table.apply grouped.grouping.spec record).result = .error failure) :
      Ending next grouped cancelled
        ((grouped.taken grouped.grouping.table (next grouped.source cancelled).stream).fail failure
          (next grouped.source cancelled).cancelled)
  | row {record : Record} {group : Group}
      (answer : (next grouped.source cancelled).answer = .ok (some record))
      (accepted : (grouped.grouping.table.apply grouped.grouping.spec record).result = .ok group)
      (changelog : grouped.grouping.spec.emitMode = .changelog) :
      Ending next grouped cancelled
        ((grouped.taken (grouped.grouping.table.apply grouped.grouping.spec record).state
          (next grouped.source cancelled).stream).answering (group.row grouped.grouping.spec record.kind)
          (next grouped.source cancelled).cancelled)
  | endless {record : Record} {group : Group}
      (answer : (next grouped.source cancelled).answer = .ok (some record))
      (accepted : (grouped.grouping.table.apply grouped.grouping.spec record).result = .ok group)
      (final : grouped.grouping.spec.emitMode = .final) :
      Ending next grouped cancelled
        ((grouped.taken (grouped.grouping.table.apply grouped.grouping.spec record).state
          (next grouped.source cancelled).stream).fail (Failure.of .endlessStream)
          (next grouped.source cancelled).cancelled)

-- A pull ends with the next record, or takes it in and goes on with less fuel.
theorem absorb_step (next : Pull σ) (fuel : Nat) (grouped : Grouped σ) (cancelled : Bool) :
    Ending next grouped cancelled (absorb next fuel grouped cancelled) ∨
      ∃ record group less, (next grouped.source cancelled).answer = .ok (some record) ∧
        (grouped.grouping.table.apply grouped.grouping.spec record).result = .ok group ∧
        grouped.grouping.spec.emitMode = .final ∧ fuel = less + 1 ∧
        absorb next fuel grouped cancelled =
          absorb next less (grouped.taken (grouped.grouping.table.apply grouped.grouping.spec record).state
            (next grouped.source cancelled).stream) (next grouped.source cancelled).cancelled := by
  rw [absorb.eq_def next fuel grouped cancelled]
  cases cancelled with
  | true => exact .inl (.stopped rfl)
  | false =>
    dsimp only
    rw [if_neg Bool.false_ne_true]
    cases answer : (next grouped.source false).answer with
    | error failure => exact .inl (.failed answer)
    | ok given =>
      cases given with
      | none => exact .inl (.ended answer)
      | some record =>
        dsimp only
        cases accepted : (grouped.grouping.table.apply grouped.grouping.spec record).result with
        | error failure =>
          have rejected := Ending.rejected answer accepted
          unfold taken at rejected
          rw [GroupTable.apply_failed accepted]
          exact .inl rejected
        | ok group =>
          dsimp only
          cases mode : grouped.grouping.spec.emitMode with
          | changelog => exact .inl (.row answer accepted mode)
          | final =>
            cases fuel with
            | zero => exact .inl (.endless answer accepted mode)
            | succ less => exact .inr ⟨record, group, less, rfl, accepted, rfl, rfl, rfl⟩

theorem absorb_cases (next : Pull σ) (fuel : Nat) (grouped : Grouped σ) (cancelled : Bool) :
    ∃ records source signal table, Pull.Gives next grouped.source cancelled records source signal ∧
      grouped.grouping.table.applyAll grouped.grouping.spec records = .ok table ∧
      Ending next (grouped.taken table source) signal (absorb next fuel grouped cancelled) := by
  induction fuel generalizing grouped cancelled with
  | zero =>
    rcases absorb_step next 0 grouped cancelled with ending | ⟨record, group, less, answer, accepted, final, fuel, same⟩
    · exact ⟨[], grouped.source, cancelled, grouped.grouping.table, .nothing, rfl, ending⟩
    · cases fuel
  | succ fuel ih =>
    rcases absorb_step next (fuel + 1) grouped cancelled with
      ending | ⟨record, group, less, answer, accepted, final, enough, same⟩
    · exact ⟨[], grouped.source, cancelled, grouped.grouping.table, .nothing, rfl, ending⟩
    · cases enough
      obtain ⟨records, source, signal, table, gives, applied, ending⟩ :=
        ih (grouped.taken (grouped.grouping.table.apply grouped.grouping.spec record).state
          (next grouped.source cancelled).stream) (next grouped.source cancelled).cancelled
      refine ⟨record :: records, source, signal, table, .record answer gives, ?_, ?_⟩
      · rw [GroupTable.applyAll, accepted]
        exact applied
      · rw [same]
        exact ending

-- What a grouping can fail for once it has taken records in. Only a rejected record is one that it had pulled.
inductive GivesUp (next : Pull σ) (spec : GroupSpec) (table : GroupTable) (source : σ) (cancelled : Bool)
    (failure : Failure) : Prop
  | calledOff (signal : cancelled = true)
  | below (answer : (next source cancelled).answer = .error failure)
  | atTheEnd (answer : (next source cancelled).answer = .ok none)
  | rejected {record : Record} (answer : (next source cancelled).answer = .ok (some record))
      (rejection : (table.apply spec record).result = .error failure)
  | endless (bound : failure = Failure.of .endlessStream)

theorem Drained.table {pulled : Pulled (Grouped σ)} (drained : Drained grouped cancelled pulled) :
    pulled.stream.grouping.table = grouped.grouping.table ∧ pulled.stream.grouping.spec = grouped.grouping.spec := by
  cases drained <;> exact ⟨rfl, rfl⟩

theorem Drained.source {pulled : Pulled (Grouped σ)} (drained : Drained grouped cancelled pulled) :
    pulled.stream.source = grouped.source := by
  cases drained <;> rfl

theorem Drained.failed {pulled : Pulled (Grouped σ)} {failure : Failure} (drained : Drained grouped cancelled pulled)
    (failed : pulled.answer = .error failure) : pulled = grouped.fail failure cancelled := by
  cases drained with
  | finished => cases failed
  | stopped calledOff =>
    cases failed
    rfl
  | row found built => cases failed

theorem absorb_failed {fuel : Nat} {failure : Failure}
    (failed : (absorb next fuel grouped cancelled).answer = .error failure) :
    ∃ records source signal, Pull.Gives next grouped.source cancelled records source signal ∧
      grouped.grouping.table.applyAll grouped.grouping.spec records =
        .ok (absorb next fuel grouped cancelled).stream.grouping.table ∧
      GivesUp next grouped.grouping.spec (absorb next fuel grouped cancelled).stream.grouping.table source signal failure := by
  obtain ⟨records, source, signal, table, gives, applied, ending⟩ := absorb_cases next fuel grouped cancelled
  generalize absorb next fuel grouped cancelled = pulled at ending failed
  cases ending with
  | stopped calledOff => exact ⟨records, source, signal, gives, applied, .calledOff calledOff⟩
  | failed answer =>
    cases failed
    exact ⟨records, source, signal, gives, applied, .below answer⟩
  | ended answer =>
    refine ⟨records, source, signal, gives, ?_, .atTheEnd answer⟩
    rw [(drain_cases _ _).table.1]
    exact applied
  | rejected answer rejection =>
    cases failed
    exact ⟨records, source, signal, gives, applied, .rejected answer rejection⟩
  | @row record group answer accepted changelog =>
    obtain ⟨row, built⟩ := group.row_exists (grouped.taken table source).grouping.spec record.kind
    rw [built] at failed
    cases failed
  | endless answer accepted final =>
    cases failed
    refine ⟨_, _, _, gives.append (.record answer .nothing), ?_, .endless rfl⟩
    rw [GroupTable.applyAll_append applied]
    exact GroupTable.applyAll_singleton accepted

theorem absorb_failed_phase {fuel : Nat} {failure : Failure}
    (failed : (absorb next fuel grouped cancelled).answer = .error failure) :
    (absorb next fuel grouped cancelled).stream.grouping.phase = .failed := by
  obtain ⟨records, source, signal, table, gives, applied, ending⟩ := absorb_cases next fuel grouped cancelled
  generalize absorb next fuel grouped cancelled = pulled at ending failed
  cases ending with
  | ended answer =>
    rw [(drain_cases _ _).failed failed]
    rfl
  | @row record group answer accepted changelog =>
    obtain ⟨row, built⟩ := group.row_exists (grouped.taken table source).grouping.spec record.kind
    rw [built] at failed
    cases failed
  | _ => rfl

theorem pull_open (next : Pull σ) (cancelled : Bool) (remaining : σ → Nat) (isOpen : grouped.grouping.phase = .open) :
    ∃ fuel, pull next remaining grouped cancelled = absorb next fuel grouped cancelled := by
  unfold pull
  rw [isOpen]
  dsimp only
  cases grouped.grouping.spec.emitMode with
  | changelog => exact ⟨0, rfl⟩
  | final => exact ⟨remaining grouped.source, rfl⟩

inductive ByPhase (next : Pull σ) (grouped : Grouped σ) (cancelled : Bool) : Pulled (Grouped σ) → Prop
  | absorbing (isOpen : grouped.grouping.phase = .open) (fuel : Nat) :
      ByPhase next grouped cancelled (absorb next fuel grouped cancelled)
  | draining (phase : grouped.grouping.phase = .draining) : ByPhase next grouped cancelled (grouped.drain cancelled)
  | closed (phase : grouped.grouping.phase = .closed) : ByPhase next grouped cancelled ⟨.ok none, grouped, cancelled⟩
  | failed (phase : grouped.grouping.phase = .failed) :
      ByPhase next grouped cancelled ⟨.error (Failure.of .pulledAfterFailure), grouped, cancelled⟩

theorem pull_byPhase (next : Pull σ) (remaining : σ → Nat) (grouped : Grouped σ) (cancelled : Bool) :
    ByPhase next grouped cancelled (pull next remaining grouped cancelled) := by
  cases phase : grouped.grouping.phase with
  | «open» =>
    obtain ⟨fuel, absorbed⟩ := pull_open next cancelled remaining phase
    rw [absorbed]
    exact .absorbing phase fuel
  | draining =>
    unfold pull
    rw [phase]
    exact .draining phase
  | closed =>
    unfold pull
    rw [phase]
    exact .closed phase
  | failed =>
    unfold pull
    rw [phase]
    exact .failed phase

theorem pull_failed {remaining : σ → Nat} {failure : Failure}
    (failed : (pull next remaining grouped cancelled).answer = .error failure) :
    (pull next remaining grouped cancelled).stream.grouping.phase = .failed ∧
      ∃ records source signal, Pull.Gives next grouped.source cancelled records source signal ∧
        grouped.grouping.table.applyAll grouped.grouping.spec records =
          .ok (pull next remaining grouped cancelled).stream.grouping.table ∧
        (grouped.grouping.phase = .open →
          GivesUp next grouped.grouping.spec (pull next remaining grouped cancelled).stream.grouping.table source signal
            failure) := by
  have byPhase := pull_byPhase next remaining grouped cancelled
  generalize pull next remaining grouped cancelled = pulled at byPhase failed ⊢
  cases byPhase with
  | absorbing isOpen fuel =>
    obtain ⟨records, source, signal, gives, applied, why⟩ := absorb_failed failed
    exact ⟨absorb_failed_phase failed, records, source, signal, gives, applied, fun _ => why⟩
  | draining phase =>
    rw [(drain_cases _ _).failed failed]
    exact ⟨rfl, [], grouped.source, cancelled, .nothing, rfl, fun still => nomatch phase.symm.trans still⟩
  | closed phase => cases failed
  | failed phase =>
    exact ⟨phase, [], grouped.source, cancelled, .nothing, rfl, fun still => nomatch phase.symm.trans still⟩

end Grouped

namespace Grouped

variable {next : Pull σ} {grouped : Grouped σ} {cancelled : Bool}

-- However a pull ends, the table is one after records that were accepted.
theorem Ending.accepts {pulled : Pulled (Grouped σ)} (ending : Ending next grouped cancelled pulled) :
    pulled.stream.grouping.spec = grouped.grouping.spec ∧
      ∃ records, grouped.grouping.table.applyAll grouped.grouping.spec records = .ok pulled.stream.grouping.table := by
  cases ending with
  | stopped calledOff => exact ⟨rfl, [], rfl⟩
  | failed answer => exact ⟨rfl, [], rfl⟩
  | ended answer =>
    refine ⟨(drain_cases _ _).table.2, [], ?_⟩
    rw [(drain_cases _ _).table.1]
    rfl
  | rejected answer rejection => exact ⟨rfl, [], rfl⟩
  | @row record group answer accepted changelog =>
    obtain ⟨row, built⟩ := group.row_exists grouped.grouping.spec record.kind
    rw [built]
    exact ⟨rfl, [record], GroupTable.applyAll_singleton accepted⟩
  | @endless record group answer accepted final =>
    exact ⟨rfl, [record], GroupTable.applyAll_singleton accepted⟩

theorem Ending.source {pulled : Pulled (Grouped σ)} (ending : Ending next grouped cancelled pulled) :
    pulled.stream.source = grouped.source ∨ pulled.stream.source = (next grouped.source cancelled).stream := by
  cases ending with
  | stopped calledOff => exact .inl rfl
  | ended answer => exact .inr (drain_cases _ _).source
  | @row record group answer accepted changelog =>
    obtain ⟨row, built⟩ := group.row_exists grouped.grouping.spec record.kind
    rw [built]
    exact .inr rfl
  | _ => exact .inr rfl

theorem pull_accepts (next : Pull σ) (remaining : σ → Nat) (grouped : Grouped σ) (cancelled : Bool) :
    (pull next remaining grouped cancelled).stream.grouping.spec = grouped.grouping.spec ∧
      ∃ records, grouped.grouping.table.applyAll grouped.grouping.spec records =
        .ok (pull next remaining grouped cancelled).stream.grouping.table := by
  have byPhase := pull_byPhase next remaining grouped cancelled
  generalize pull next remaining grouped cancelled = pulled at byPhase ⊢
  cases byPhase with
  | absorbing isOpen fuel =>
    obtain ⟨records, source, signal, table, gives, applied, ending⟩ := absorb_cases next fuel grouped cancelled
    obtain ⟨spec, more, last⟩ := ending.accepts
    exact ⟨spec, records ++ more, (GroupTable.applyAll_append applied).trans last⟩
  | draining phase =>
    rw [(drain_cases grouped cancelled).table.1]
    exact ⟨(drain_cases grouped cancelled).table.2, [], rfl⟩
  | closed phase => exact ⟨rfl, [], rfl⟩
  | failed phase => exact ⟨rfl, [], rfl⟩

end Grouped

-- Whatever a record is rejected for, nothing has changed; a pull that fails leaves the records it has accepted
-- and no trace of the others; and where every accumulator agrees, neither the changes nor the row can fail.
theorem GroupSpec.updates_all_or_nothing (spec : GroupSpec) :
    (∀ (table : GroupTable) (record : Record) (failure : Failure),
      (table.apply spec record).result = .error failure → (table.apply spec record).state = table) ∧
    (∀ (σ : Type) (next : Pull σ) (remaining : σ → Nat) (grouped : Grouped σ) (cancelled : Bool) (failure : Failure),
      grouped.grouping.spec = spec →
      (Grouped.pull next remaining grouped cancelled).answer = .error failure →
      (Grouped.pull next remaining grouped cancelled).stream.grouping.phase = .failed ∧
        ∃ records source signal, Pull.Gives next grouped.source cancelled records source signal ∧
          grouped.grouping.table.applyAll spec records =
            .ok (Grouped.pull next remaining grouped cancelled).stream.grouping.table ∧
          (grouped.grouping.phase = .open →
            Grouped.GivesUp next spec (Grouped.pull next remaining grouped cancelled).stream.grouping.table source signal
              failure)) ∧
    (∀ (group : Group) (kind : EventKind) (values : List Value),
      (kind.isRetraction && group.live == 0) = false →
      Group.checkFrom kind 0 spec.aggregates group.accumulators values = .ok () →
      (Group.changeFrom kind 0 spec.aggregates group.accumulators values).result = .ok () ∧
        (group.update spec kind values).result = .ok ()) ∧
    ∀ (group : Group) (kind : EventKind), ∃ row, group.row spec kind = .ok row := by
  refine ⟨?_, ?_, ?_, ?_⟩
  · intro table record failure rejected
    exact GroupTable.apply_failed rejected
  · intro σ next remaining grouped cancelled failure same failed
    subst same
    exact Grouped.pull_failed failed
  · intro group kind values alive checked
    rw [Group.update_of_checkFrom alive checked]
    exact ⟨Group.changeFrom_ok checked, rfl⟩
  · intro group kind
    exact group.row_exists spec kind

def countAndSum : Grouped Feed where
  grouping := { spec := .byField "k" [⟨"v", .count, "count"⟩, ⟨"w", .sum, "sum"⟩] .final .ordered }
  source := .replay [
    ⟨[("k", .int 1), ("v", .int 2), ("w", .int 3)], .insert⟩,
    ⟨[("k", .int 1), ("v", .int 4), ("w", .text "x")], .insert⟩]

theorem GroupSpec.updates_all_or_nothing_refused :
    (Grouped.pull Feed.pull Feed.remaining countAndSum false).answer =
      .error ((Failure.of (.notSummable .incorporate (.text "x"))).within (.aggregateUpdate .sum 1)) ∧
    ∃ records source signal, Pull.Gives Feed.pull countAndSum.source false records source signal ∧
      GroupTable.applyAll countAndSum.grouping.spec {} records =
        .ok (Grouped.pull Feed.pull Feed.remaining countAndSum false).stream.grouping.table := by
  have refused : (Grouped.pull Feed.pull Feed.remaining countAndSum false).answer =
      .error ((Failure.of (.notSummable .incorporate (.text "x"))).within (.aggregateUpdate .sum 1)) := by
    decide +kernel
  obtain ⟨phase, records, source, signal, gives, applied, why⟩ :=
    (updates_all_or_nothing countAndSum.grouping.spec).2.1 Feed Feed.pull Feed.remaining countAndSum false _ rfl refused
  exact ⟨refused, records, source, signal, gives, applied⟩

end DeltaQuery
