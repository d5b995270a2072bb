import DeltaQuery.Proofs.Bounds
import DeltaQuery.Proofs.LastRows

namespace DeltaQuery

def GroupTable.outcomeAfter (table : GroupTable) (spec : GroupSpec) (records : List Record)
    (outcome : Except Failure Unit) : Except Failure Unit := (table.applyAll spec records).bind fun _ => outcome

theorem GroupTable.outcomeAfter_cons {table : GroupTable} {spec : GroupSpec} {record : Record} {group : Group}
    (accepted : (table.apply spec record).result = .ok group) (records : List Record) (outcome : Except Failure Unit) :
    table.outcomeAfter spec (record :: records) outcome =
      (table.apply spec record).state.outcomeAfter spec records outcome := by
  unfold outcomeAfter
  rw [applyAll, accepted]

theorem GroupTable.outcomeAfter_of_error {table : GroupTable} {spec : GroupSpec} {record : Record} {failure : Failure}
    (rejected : (table.apply spec record).result = .error failure) (records : List Record)
    (outcome : Except Failure Unit) : table.outcomeAfter spec (record :: records) outcome = .error failure := by
  unfold outcomeAfter
  rw [applyAll, rejected]
  rfl

namespace Grouped

variable {σ : Type} {next : Pull σ} {remaining : σ → Nat} {grouped : Grouped σ} {stream : σ} {fuel : Nat}
variable {records seen rows : List Record} {record : Record} {group : Group} {outcome : Except Failure Unit}

theorem absorb_of_end (answer : (next grouped.source false).answer = .ok none) :
    absorb next fuel grouped false =
      ((grouped.taken grouped.grouping.table (next grouped.source false).stream).inPhase .draining).drain
        (next grouped.source false).cancelled := by
  rw [absorb.eq_def]
  simp only [answer]
  rfl

theorem absorb_of_failed {failure : Failure} (answer : (next grouped.source false).answer = .error failure) :
    (absorb next fuel grouped false).answer = .error failure := by
  rw [absorb.eq_def]
  simp only [answer]
  rfl

theorem absorb_of_rejected {failure : Failure} (answer : (next grouped.source false).answer = .ok (some record))
    (rejected : (grouped.grouping.table.apply grouped.grouping.spec record).result = .error failure) :
    (absorb next fuel grouped false).answer = .error failure := by
  rw [absorb.eq_def]
  simp only [answer, rejected]
  rfl

theorem absorb_of_answered (answer : (next grouped.source false).answer = .ok (some record))
    (accepted : (grouped.grouping.table.apply grouped.grouping.spec record).result = .ok group)
    (changelog : grouped.grouping.spec.emitMode = .changelog) :
    absorb next fuel grouped false =
      (grouped.taken (grouped.grouping.table.apply grouped.grouping.spec record).state
        (next grouped.source false).stream).answering (group.row grouped.grouping.spec record.kind)
        (next grouped.source false).cancelled := by
  rw [absorb.eq_def]
  simp only [answer, accepted, changelog]
  rfl

theorem absorb_of_taken (answer : (next grouped.source false).answer = .ok (some record))
    (accepted : (grouped.grouping.table.apply grouped.grouping.spec record).result = .ok group)
    (final : grouped.grouping.spec.emitMode = .final) :
    absorb next (fuel + 1) grouped false =
      absorb next fuel (grouped.taken (grouped.grouping.table.apply grouped.grouping.spec record).state
        (next grouped.source false).stream) (next grouped.source false).cancelled := by
  rw [absorb.eq_def]
  simp only [answer, accepted, final]
  rfl

theorem drain_of_changelog (grouped : Grouped σ) (cancelled : Bool)
    (changelog : grouped.grouping.spec.emitMode = .changelog) :
    grouped.drain cancelled = ⟨.ok none, grouped.inPhase .closed, cancelled⟩ := by
  unfold drain
  simp only [changelog]

-- A row is given for every record until one is rejected, and the table shows the last rows of what it took in.
theorem changelog_run (remaining : σ → Nat) (isOpen : grouped.grouping.phase = .open)
    (changelog : grouped.grouping.spec.emitMode = .changelog) (input : next.Runs stream records outcome)
    (below : grouped.source = stream) (shows : grouped.grouping.table.Shows grouped.grouping.spec seen rows) :
    ∃ more, (pull next remaining).Runs grouped more
        (grouped.grouping.table.outcomeAfter grouped.grouping.spec records outcome) ∧
      ∀ last, grouped.grouping.table.applyAll grouped.grouping.spec records = .ok last →
        last.Shows grouped.grouping.spec (seen ++ records) (rows ++ more) := by
  induction input generalizing grouped seen rows with
  | @ended stream answer running =>
    subst below
    obtain ⟨fuel, absorbed⟩ := pull_open next false remaining isOpen
    rw [absorb_of_end answer, running] at absorbed
    have drained := drain_of_changelog
      ((grouped.taken grouped.grouping.table (next grouped.source false).stream).inPhase .draining) false changelog
    refine ⟨[], .ended ?_ ?_, ?_⟩
    · rw [absorbed, drained]
    · rw [absorbed, drained]
    · intro last applied
      cases applied
      rwa [List.append_nil, List.append_nil]
  | @failed stream failure answer =>
    subst below
    obtain ⟨fuel, absorbed⟩ := pull_open next false remaining isOpen
    refine ⟨[], .failed ?_, ?_⟩
    · rw [absorbed]
      exact absorb_of_failed answer
    · intro last applied
      cases applied
      rwa [List.append_nil, List.append_nil]
  | @record stream record records outcome answer running rest ih =>
    subst below
    obtain ⟨fuel, absorbed⟩ := pull_open next false remaining isOpen
    cases accepted : (grouped.grouping.table.apply grouped.grouping.spec record).result with
    | error failure =>
      rw [GroupTable.outcomeAfter_of_error accepted]
      refine ⟨[], .failed ?_, ?_⟩
      · rw [absorbed]
        exact absorb_of_rejected answer accepted
      · intro last applied
        rw [GroupTable.applyAll, accepted] at applied
        cases applied
    | ok group =>
      obtain ⟨row, built⟩ := group.row_exists grouped.grouping.spec record.kind
      rw [absorb_of_answered answer accepted changelog, built, running] at absorbed
      have stillOpen : (grouped.taken (grouped.grouping.table.apply grouped.grouping.spec record).state
          (next grouped.source false).stream).grouping.phase = .open := isOpen
      obtain ⟨more, runs, later⟩ := ih stillOpen changelog rfl (shows.apply accepted built)
      rw [GroupTable.outcomeAfter_cons accepted]
      refine ⟨row :: more, .record ?_ ?_ ?_, ?_⟩
      · rw [absorbed]
        rfl
      · rw [absorbed]
        rfl
      · rw [absorbed]
        exact runs
      · intro last applied
        rw [GroupTable.applyAll, accepted] at applied
        have whole := later last applied
        rwa [List.append_assoc, List.append_assoc] at whole

-- A pull takes all records in, as long as there are no more of them than there is fuel.
theorem absorb_run (final : grouped.grouping.spec.emitMode = .final) (input : next.Runs stream records outcome)
    (below : grouped.source = stream) (enough : records.length ≤ fuel) :
    (∀ failure, grouped.grouping.table.outcomeAfter grouped.grouping.spec records outcome = .error failure →
        (absorb next fuel grouped false).answer = .error failure) ∧
      ∀ last, grouped.grouping.table.applyAll grouped.grouping.spec records = .ok last → outcome = .ok () →
        ∃ source, absorb next fuel grouped false = ((grouped.taken last source).inPhase .draining).drain false := by
  induction input generalizing grouped fuel with
  | @ended stream answer running =>
    subst below
    refine ⟨?_, ?_⟩
    · intro failure stops
      cases stops
    · intro last applied _
      cases applied
      exact ⟨(next grouped.source false).stream, by rw [absorb_of_end answer, running]⟩
  | @failed stream failure answer =>
    subst below
    refine ⟨?_, ?_⟩
    · intro other stops
      cases stops
      exact absorb_of_failed answer
    · intro last applied ends
      cases ends
  | @record stream record records outcome answer running rest ih =>
    subst below
    cases accepted : (grouped.grouping.table.apply grouped.grouping.spec record).result with
    | error failure =>
      rw [GroupTable.outcomeAfter_of_error accepted, GroupTable.applyAll, accepted]
      refine ⟨?_, ?_⟩
      · intro other stops
        cases stops
        exact absorb_of_rejected answer accepted
      · intro last applied
        cases applied
    | ok group =>
      obtain ⟨less, rfl⟩ : ∃ less, fuel = less + 1 := ⟨fuel - 1, by rw [List.length_cons] at enough; omega⟩
      have stillFinal : (grouped.taken (grouped.grouping.table.apply grouped.grouping.spec record).state
          (next grouped.source false).stream).grouping.spec.emitMode = .final := final
      have after := ih stillFinal rfl (Nat.le_of_succ_le_succ enough)
      rw [GroupTable.outcomeAfter_cons accepted, GroupTable.applyAll, accepted, absorb_of_taken answer accepted final,
        running]
      exact after

theorem pull_draining (draining : grouped.grouping.phase = .draining) (final : grouped.grouping.spec.emitMode = .final) :
    pull next remaining grouped false =
      match grouped.grouping.table.liveFrom? grouped.grouping.drained with
      | none => ⟨.ok none, grouped.inPhase .closed, false⟩
      | some (slot, group) =>
        answering ⟨{ grouped.grouping with drained := slot + 1 }, grouped.source⟩
          (group.row grouped.grouping.spec .insert) false := by
  unfold pull drain
  simp only [draining, final]
  rfl

theorem drain_run (remaining : σ → Nat) (draining : grouped.grouping.phase = .draining)
    (final : grouped.grouping.spec.emitMode = .final)
    (made : List.Forall₂ (fun group row => group.row grouped.grouping.spec .insert = .ok row)
      (grouped.grouping.table.liveGroups grouped.grouping.drained) rows) :
    (pull next remaining).Runs grouped rows (.ok ()) := by
  have pulled := @pull_draining _ next remaining _ draining final
  induction rows generalizing grouped with
  | nil =>
    rcases grouped.grouping.table.liveFrom?_cases grouped.grouping.drained with
      ⟨none, _⟩ | ⟨slot, group, found, _, _, live⟩
    · rw [none] at pulled
      exact .ended (by rw [pulled]) (by rw [pulled])
    · rw [live] at made
      cases made
  | cons row rows ih =>
    rcases grouped.grouping.table.liveFrom?_cases grouped.grouping.drained with
      ⟨_, live⟩ | ⟨slot, group, found, _, _, live⟩
    · rw [live] at made
      cases made
    · rw [live] at made
      cases made with
      | cons built others =>
        rw [found] at pulled
        dsimp only at pulled
        rw [built] at pulled
        refine .record (by rw [pulled]; rfl) (by rw [pulled]; rfl) ?_
        rw [pulled]
        exact ih draining final others (pull_draining draining final)

theorem final_run (isOpen : grouped.grouping.phase = .open) (final : grouped.grouping.spec.emitMode = .final)
    (input : next.Runs grouped.source records outcome) (enough : records.length ≤ remaining grouped.source) :
    (∀ failure, grouped.grouping.table.outcomeAfter grouped.grouping.spec records outcome = .error failure →
        (pull next remaining).Runs grouped [] (.error failure)) ∧
      ∀ last rows, grouped.grouping.table.applyAll grouped.grouping.spec records = .ok last → outcome = .ok () →
        List.Forall₂ (fun group row => group.row grouped.grouping.spec .insert = .ok row)
          (last.liveGroups grouped.grouping.drained) rows → (pull next remaining).Runs grouped rows (.ok ()) := by
  have pulled : pull next remaining grouped false = absorb next (remaining grouped.source) grouped false := by
    unfold pull
    simp only [isOpen, final]
  obtain ⟨failed, ended⟩ := absorb_run final input rfl enough
  refine ⟨?_, ?_⟩
  · intro failure stops
    exact .failed (by rw [pulled]; exact failed failure stops)
  · intro last rows applied ends made
    obtain ⟨source, drained⟩ := ended last applied ends
    have rest := @drain_run _ next ((grouped.taken last source).inPhase .draining) _ remaining rfl final made
    refine rest.start (pulled.trans (drained.trans ?_))
    unfold pull
    rfl

end Grouped

def GroupSpec.emitting (spec : GroupSpec) (mode : EmitMode) : GroupSpec := { spec with emitMode := mode }

theorem GroupTable.applyAll_emitting (table : GroupTable) (spec : GroupSpec) (mode : EmitMode) (records : List Record) :
    table.applyAll (spec.emitting mode) records = table.applyAll spec records := by
  induction records generalizing table with
  | nil => rfl
  | cons record records ih =>
    have same : table.apply (spec.emitting mode) record = table.apply spec record := rfl
    rw [applyAll, applyAll, same]
    simp only [ih]

theorem Feed.replay_run (pending : List Record) : Feed.pull.Runs (.replay pending) pending (.ok ()) := by
  induction pending with
  | nil => exact .ended rfl rfl
  | cons record pending ih => exact .record rfl rfl ih

namespace Operator

-- By changelog, a run fails or ends. If it fails, the run that emits at the end fails in the same way and gives
-- nothing. If it ends, the other gives the last row of every live key as an insert and ends as well.
theorem emit_modes_agree (spec : GroupSpec) (source : Operator) {records : List Record} {outcome : Except Failure Unit}
    (input : pull.Runs source records outcome) :
    ∃ rows stop, pull.Runs (.groupBy { spec := spec.emitting .changelog } source) rows stop ∧
      (∀ failure, stop = .error failure →
        pull.Runs (.groupBy { spec := spec.emitting .final } source) [] (.error failure)) ∧
      (stop = .ok () → ∃ made, pull.Runs (.groupBy { spec := spec.emitting .final } source) made (.ok ()) ∧
        made.map some = (spec.liveKeys records).map fun key =>
          (spec.lastRow? key rows).map fun row => { row with kind := .insert }) := by
  have wrapped (grouped : Grouped Operator) := pull_groupBy grouped.grouping grouped.source false
  have enough := Pull.Runs.length_le pull_bounds input
  let start (mode : EmitMode) : Grouped Operator := ⟨{ spec := spec.emitting mode }, source⟩
  obtain ⟨rows, runs, shows⟩ := @Grouped.changelog_run _ pull (start .changelog) _ _ [] [] _ remaining rfl rfl input rfl
    (GroupTable.shows_empty _)
  obtain ⟨failed, ended⟩ := @Grouped.final_run _ pull remaining (start .final) _ _ rfl rfl input enough
  -- What the records do to the table is the same in either mode.
  have taken (mode : EmitMode) : (start mode).grouping.table.applyAll (start mode).grouping.spec records =
      GroupTable.applyAll spec {} records := GroupTable.applyAll_emitting {} spec mode records
  have stop (mode : EmitMode) : (start mode).grouping.table.outcomeAfter (start mode).grouping.spec records outcome =
      GroupTable.outcomeAfter {} spec records outcome := congrArg (Except.bind · fun _ => outcome) (taken mode)
  rw [taken] at ended shows
  rw [stop] at failed runs
  refine ⟨rows, GroupTable.outcomeAfter {} spec records outcome, runs.within wrapped, ?_, ?_⟩
  · intro failure fails
    exact (failed failure fails).within wrapped
  · intro ends
    cases applied : GroupTable.applyAll spec {} records with
    | error failure =>
      rw [GroupTable.outcomeAfter, applied] at ends
      cases ends
    | ok last =>
      rw [GroupTable.outcomeAfter, applied] at ends
      obtain ⟨made, rowsMade, lastRows⟩ := (shows last applied).liveRows
      exact ⟨made, (ended last made applied ends rowsMade).within wrapped, lastRows⟩

def sumByKey : GroupSpec := .byField "k" [⟨"v", .sum, "sum"⟩] .final .ordered

def dyingAndReturning : List Record := [
  ⟨[("k", .int 2), ("v", .int 5)], .insert⟩,
  ⟨[("k", .int 1), ("v", .int 3)], .insert⟩,
  ⟨[("k", .int 3), ("v", .int 1)], .insert⟩,
  ⟨[("k", .int 3), ("v", .int 1)], .retract⟩,
  ⟨[("k", .int 2), ("v", .int 5)], .retract⟩,
  ⟨[("k", .int 2), ("v", .int 4)], .insert⟩]

theorem emit_modes_agree_dyingAndReturning :
    pull.Runs (.feed (.replay dyingAndReturning)) dyingAndReturning (.ok ()) ∧
      pull.Runs (.groupBy { spec := sumByKey.emitting .final } (.feed (.replay dyingAndReturning)))
        [⟨[("k", .int 2), ("sum", .int 4)], .insert⟩, ⟨[("k", .int 1), ("sum", .int 3)], .insert⟩] (.ok ()) := by
  have input : pull.Runs (.feed (.replay dyingAndReturning)) dyingAndReturning (.ok ()) :=
    (Feed.replay_run dyingAndReturning).within fun _ => rfl
  have changelog : pull.Runs (.groupBy { spec := sumByKey.emitting .changelog } (.feed (.replay dyingAndReturning)))
      [⟨[("k", .int 2), ("sum", .int 5)], .insert⟩, ⟨[("k", .int 1), ("sum", .int 3)], .insert⟩,
        ⟨[("k", .int 3), ("sum", .int 1)], .insert⟩, ⟨[("k", .int 3), ("sum", .null)], .retract⟩,
        ⟨[("k", .int 2), ("sum", .null)], .retract⟩, ⟨[("k", .int 2), ("sum", .int 4)], .insert⟩] (.ok ()) :=
    .record (by decide +kernel) (by decide +kernel) <| .record (by decide +kernel) (by decide +kernel) <|
      .record (by decide +kernel) (by decide +kernel) <| .record (by decide +kernel) (by decide +kernel) <|
        .record (by decide +kernel) (by decide +kernel) <| .record (by decide +kernel) (by decide +kernel) <|
          .ended (by decide +kernel) (by decide +kernel)
  obtain ⟨rows, stop, runs, _, ended⟩ := emit_modes_agree sumByKey _ input
  obtain ⟨rfl, rfl⟩ := changelog.unique runs
  obtain ⟨made, final, same⟩ := ended rfl
  have lastRows : made.map some = [⟨[("k", .int 2), ("sum", .int 4)], .insert⟩,
      ⟨[("k", .int 1), ("sum", .int 3)], .insert⟩].map some := same.trans (by decide +kernel)
  rw [List.map_injective_iff.mpr (Option.some_injective Record) lastRows] at final
  exact ⟨input, final⟩

end Operator

end DeltaQuery
