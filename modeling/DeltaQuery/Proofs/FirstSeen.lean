import DeltaQuery.Proofs.LifeCycle

namespace DeltaQuery

-- A retraction that is accepted takes one from a count that is not zero.
theorem Group.live_of_retract {spec : GroupSpec} {before after : Group} {values : List Value}
    (update : before.update spec .retract values = .done after ()) : before.live = after.live + 1 := by
  rcases update_cases spec before .retract values with ⟨failure, failed, _⟩ | ⟨alive, _, changed⟩
  · cases failed.symm.trans update
  · cases changed.symm.trans update
    have positive : before.live ≠ 0 := by simpa [EventKind.isRetraction] using alive
    exact (Nat.succ_pred_eq_of_ne_zero positive).symm

-- The keys of insertions, each at the place where it was first inserted.
def GroupSpec.keysInserted (spec : GroupSpec) (records : List Record) : List (List Value) :=
  spec.keysSeen (records.filter fun record => record.kind = .insert)

namespace GroupTable

variable {table : GroupTable} {spec : GroupSpec} {seen : List Record} {record : Record} {group : Group}

-- The table after records, going on after those that are rejected.
def afterAll (spec : GroupSpec) (table : GroupTable) : List Record → GroupTable
  | [] => table
  | record :: records => (table.apply spec record).state.afterAll spec records

def accepted (spec : GroupSpec) (table : GroupTable) : List Record → List Record
  | [] => []
  | record :: records =>
    let attempt := table.apply spec record
    (match attempt.result with
      | .ok _ => [record]
      | .error _ => []) ++ attempt.state.accepted spec records

theorem afterAll_append (spec : GroupSpec) (table : GroupTable) (records more : List Record) :
    table.afterAll spec (records ++ more) = (table.afterAll spec records).afterAll spec more := by
  induction records generalizing table with
  | nil => rfl
  | cons record records ih => exact ih (table.apply spec record).state

theorem applyAll_accepted (spec : GroupSpec) (table : GroupTable) (records : List Record) :
    table.applyAll spec (table.accepted spec records) = .ok (table.afterAll spec records) := by
  induction records generalizing table with
  | nil => rfl
  | cons record records ih =>
    rw [accepted, afterAll]
    cases result : (table.apply spec record).result with
    | error failure =>
      rw [apply_failed result]
      exact ih table
    | ok group =>
      dsimp only
      rw [List.singleton_append, applyAll, result]
      exact ih _

theorem Indexed.find?_of_retract (indexed : table.Indexed) (accepted : (table.apply spec record).result = .ok group)
    (retraction : record.kind = .retract) :
    ∃ slot before, table.find? group.key = some (slot, before) ∧ before.live = group.live + 1 := by
  obtain ⟨values, _, _, accepts⟩ := indexed.accepts accepted
  generalize (table.apply spec record).state = later at accepts
  cases accepts with
  | entered absent insertion => cases retraction.symm.trans insertion
  | @changed slot before stands sameKey update =>
    rw [retraction] at update
    have entry := (indexed.leads group.key slot).mpr ⟨before, stands, sameKey⟩
    exact ⟨slot, before, find?_eq_some.mpr ⟨entry, stands⟩, Group.live_of_retract update⟩

-- A slot is taken by the first insertion of a key, since a retraction finds its group already there. After that the
-- group changes in its slot and stays there.
structure Ordered (table : GroupTable) (spec : GroupSpec) (seen : List Record) : Prop where
  keeps : table.Keeps spec seen
  keys : table.keys = spec.keysInserted seen

theorem ordered_empty (spec : GroupSpec) : Ordered {} spec [] := ⟨keeps_empty spec, rfl⟩

theorem Ordered.apply (ordered : table.Ordered spec seen) (accepted : (table.apply spec record).result = .ok group) :
    (table.apply spec record).state.Ordered spec (seen ++ [record]) := by
  obtain ⟨keeps, _, keyed⟩ := ordered.keeps.apply accepted
  have indexed := ordered.keeps.indexed
  refine ⟨keeps, ?_⟩
  rw [indexed.keys_apply accepted]
  unfold GroupSpec.keysInserted
  rw [List.filter_append]
  cases kind : record.kind with
  | insert =>
    have taken : [record].filter (fun record => record.kind = .insert) = [record] := by simp [kind]
    rw [taken, GroupSpec.keysSeen_append keyed, ordered.keys]
    rfl
  | retract =>
    have dropped : [record].filter (fun record => record.kind = .insert) = [] := by simp [kind]
    obtain ⟨slot, before, found, _⟩ := indexed.find?_of_retract accepted kind
    have known : group.key ∈ table.keys := by
      rw [indexed.mem_keys, (find?_eq_some.mp found).1]
      exact Option.some_ne_none slot
    rw [if_pos known, dropped, List.append_nil]
    exact ordered.keys

theorem ordered_afterAll (spec : GroupSpec) (records : List Record) :
    (afterAll spec {} records).Ordered spec (accepted spec {} records) :=
  applyAll_induction Ordered.apply (ordered_empty spec) (applyAll_accepted spec {} records)

theorem Ordered.keys_afterAll (ordered : table.Ordered spec seen) (records : List Record) :
    table.keys <+: (table.afterAll spec records).keys := by
  induction records generalizing table seen with
  | nil => exact List.prefix_rfl
  | cons record records ih =>
    rw [afterAll]
    cases result : (table.apply spec record).result with
    | error failure =>
      rw [apply_failed result]
      exact ih ordered
    | ok group =>
      refine List.IsPrefix.trans ?_ (ih (ordered.apply result))
      rw [ordered.keeps.indexed.keys_apply result]
      split
      · exact List.prefix_rfl
      · exact List.prefix_append _ _

structure Registers (table : GroupTable) (spec : GroupSpec) (records : List Record) : Prop where
  indexed : table.Indexed
  distinct : table.keys.Nodup
  firstSeen : table.keys = spec.keysInserted records
  columns : ∀ group ∈ table.groups, group.accumulators.map (·.aggregate) = spec.aggregates
  live : ∀ group ∈ table.groups,
    (group.live : Int) = spec.tally group.key .insert records - spec.tally group.key .retract records

theorem Ordered.registers (ordered : table.Ordered spec seen) : table.Registers spec seen := by
  have kept : ∀ group ∈ table.groups, group.Keeps spec seen := by
    intro group member
    obtain ⟨slot, stands⟩ := Array.getElem?_of_mem member
    exact ordered.keeps.groups slot group stands
  refine ⟨ordered.keeps.indexed, ordered.keeps.indexed.nodup_keys, ordered.keys, ?_, ?_⟩
  · intro group member
    have columns := (kept group member).columns.flip.imp fun accumulator column held => held.1
    unfold GroupSpec.aggregates
    rw [← List.forall₂_eq_eq_eq, List.forall₂_map_left_iff, List.forall₂_map_right_iff]
    exact columns
  · intro group member
    have live := (kept group member).live
    omega

end GroupTable

def Answer.records (answers : List Answer) : List Record := answers.filterMap Answer.row?

theorem Answer.records_append (answers more : List Answer) :
    Answer.records (answers ++ more) = Answer.records answers ++ Answer.records more := List.filterMap_append

def Turn.taken (turns : List Turn) : List Record := Answer.records (turns.flatMap (·.below))

theorem Turn.taken_cons (turn : Turn) (turns : List Turn) :
    Turn.taken (turn :: turns) = Answer.records turn.below ++ Turn.taken turns := by
  unfold taken
  rw [List.flatMap_cons, Answer.records_append]

theorem Turn.taken_append (turns more : List Turn) : Turn.taken (turns ++ more) = Turn.taken turns ++ Turn.taken more := by
  unfold taken
  rw [List.flatMap_append, Answer.records_append]

namespace Grouped

variable {σ : Type} {next : Pull σ} {remaining : σ → Nat} {cancelled : Bool}

-- From one grouping to another: what has been noted since then is what the table has gone through since then.
def Goes (before after : Grouped (Noted σ)) : Prop :=
  after.grouping.spec = before.grouping.spec ∧ ∃ more, after.source.answers = before.source.answers ++ more ∧
    after.grouping.table = before.grouping.table.afterAll before.grouping.spec (Answer.records more)

theorem Goes.refl (grouped : Grouped (Noted σ)) : Goes grouped grouped := ⟨rfl, [], (List.append_nil _).symm, rfl⟩

theorem Goes.trans {before between after : Grouped (Noted σ)} (first : Goes before between) (second : Goes between after) :
    Goes before after := by
  obtain ⟨spec, some, noted, table⟩ := first
  obtain ⟨laterSpec, more, later, last⟩ := second
  refine ⟨laterSpec.trans spec, some ++ more, ?_, ?_⟩
  · rw [later, noted, List.append_assoc]
  · rw [last, table, spec, Answer.records_append, GroupTable.afterAll_append]

theorem Goes.answered {grouped after : Grouped (Noted σ)} {answer : Answer}
    (given : (Noted.pull next grouped.source cancelled).answer = answer)
    (spec : after.grouping.spec = grouped.grouping.spec)
    (source : after.source = (Noted.pull next grouped.source cancelled).stream)
    (table : after.grouping.table = grouped.grouping.table.afterAll grouped.grouping.spec (Answer.records [answer])) :
    Goes grouped after :=
  ⟨spec, [answer], by rw [source, Noted.answers_pull given], table⟩

theorem Ending.goes {grouped : Grouped (Noted σ)} {pulled : Pulled (Grouped (Noted σ))}
    (ending : Ending (Noted.pull next) grouped cancelled pulled) : Goes grouped pulled.stream := by
  cases ending with
  | stopped calledOff => exact .refl grouped
  | failed answer => exact .answered answer rfl rfl rfl
  | ended answer =>
    have same := (drain_cases ((grouped.taken grouped.grouping.table (Noted.pull next grouped.source cancelled).stream).inPhase
      .draining) (Noted.pull next grouped.source cancelled).cancelled)
    exact .answered answer same.table.2 same.source same.table.1
  | rejected answer rejection =>
    exact .answered answer rfl rfl (GroupTable.apply_failed rejection).symm
  | @row record group answer accepted changelog =>
    obtain ⟨row, built⟩ := group.row_exists grouped.grouping.spec record.kind
    rw [built]
    exact .answered answer rfl rfl rfl
  | endless answer accepted final => exact .answered answer rfl rfl rfl

theorem absorb_goes (next : Pull σ) (fuel : Nat) (grouped : Grouped (Noted σ)) (cancelled : Bool) :
    Goes grouped (absorb (Noted.pull next) fuel grouped cancelled).stream := by
  induction fuel generalizing grouped cancelled with
  | zero =>
    rcases absorb_step (Noted.pull next) 0 grouped cancelled with ending | ⟨_, _, _, _, _, _, enough, _⟩
    · exact ending.goes
    · cases enough
  | succ fuel ih =>
    rcases absorb_step (Noted.pull next) (fuel + 1) grouped cancelled with
      ending | ⟨record, group, less, answer, accepted, final, enough, same⟩
    · exact ending.goes
    · cases enough
      rw [same]
      have one : Goes grouped (grouped.taken (grouped.grouping.table.apply grouped.grouping.spec record).state
          (Noted.pull next grouped.source cancelled).stream) := .answered answer rfl rfl rfl
      exact one.trans (ih _ _)

theorem pullNoted_goes (next : Pull σ) (remaining : σ → Nat) (grouped : Grouped σ) (cancelled : Bool) :
    Goes grouped.noted (pullNoted next remaining grouped cancelled).stream := by
  have byPhase := pull_byPhase (Noted.pull next) (fun noted => remaining noted.stream) grouped.noted cancelled
  unfold pullNoted
  generalize pull (Noted.pull next) (fun noted => remaining noted.stream) grouped.noted cancelled = pulled at byPhase ⊢
  cases byPhase with
  | absorbing isOpen fuel => exact absorb_goes next fuel grouped.noted cancelled
  | draining phase =>
    have drained := drain_cases grouped.noted cancelled
    exact ⟨drained.table.2, [], by rw [drained.source, List.append_nil], drained.table.1⟩
  | closed phase => exact .refl _
  | failed phase => exact .refl _

theorem table_turn (next : Pull σ) (remaining : σ → Nat) (grouped : Grouped σ) (cancelled : Bool) :
    (turn next remaining grouped cancelled).grouping.spec = grouped.grouping.spec ∧
      (turn next remaining grouped cancelled).grouping.table =
        grouped.grouping.table.afterAll grouped.grouping.spec
          (Answer.records (turn next remaining grouped cancelled).below) := by
  obtain ⟨spec, below, noted, table⟩ := pullNoted_goes next remaining grouped cancelled
  rw [turn_eq]
  refine ⟨spec, ?_⟩
  rw [show (pullNoted next remaining grouped cancelled).stream.source.answers = below from noted]
  exact table

theorem turns_append (next : Pull σ) (remaining : σ → Nat) (signals more : List Bool) (grouped : Grouped σ) :
    turns next remaining (signals ++ more) grouped =
      turns next remaining signals grouped ++ turns next remaining more ((pull next remaining).after signals grouped) := by
  induction signals generalizing grouped with
  | nil => rfl
  | cons cancelled signals ih => exact congrArg (_ :: ·) (ih _)

theorem table_after (next : Pull σ) (remaining : σ → Nat) (signals : List Bool) (grouped : Grouped σ) :
    ((pull next remaining).after signals grouped).grouping.table =
      grouped.grouping.table.afterAll grouped.grouping.spec (Turn.taken (turns next remaining signals grouped)) := by
  induction signals generalizing grouped with
  | nil => rfl
  | cons cancelled signals ih =>
    obtain ⟨spec, table⟩ := table_turn next remaining grouped cancelled
    have rest := ih (pull next remaining grouped cancelled).stream
    change (pull next remaining grouped cancelled).stream.grouping.spec = _ at spec
    change (pull next remaining grouped cancelled).stream.grouping.table = _ at table
    rw [spec, table, ← GroupTable.afterAll_append] at rest
    rw [turns, Turn.taken_cons]
    exact rest

end Grouped

-- After any records, rejected ones among them, the index leads to every group by its key and nowhere else, no key has two
-- groups, the groups stand in the order of the first accepted insertion of their keys and keep their slots for good, each has
-- an accumulator for every aggregate, and its count is that of the accepted insertions of its key less the retractions, none
-- of which was taken from a count of zero. The table of a grouping, whatever it is pulled over, is the table after the
-- records that came from below.
theorem GroupTable.groups_in_step (spec : GroupSpec) :
    (∀ records, (afterAll spec {} records).Registers spec (accepted spec {} records)) ∧
      (∀ records more, (afterAll spec {} records).keys <+: (afterAll spec {} (records ++ more)).keys) ∧
      (∀ records record group, ((afterAll spec {} records).apply spec record).result = .ok group → record.kind = .retract →
        ∃ slot before, (afterAll spec {} records).find? group.key = some (slot, before) ∧ before.live = group.live + 1) ∧
      ∀ (σ : Type) (next : Pull σ) (remaining : σ → Nat) (source : σ) (signals more : List Bool),
        let grouped : Grouped σ := ⟨{ spec }, source⟩
        let table := ((Grouped.pull next remaining).after signals grouped).grouping.table
        table = afterAll spec {} (Turn.taken (Grouped.turns next remaining signals grouped)) ∧
          table.keys <+: ((Grouped.pull next remaining).after (signals ++ more) grouped).grouping.table.keys := by
  refine ⟨?_, ?_, ?_, ?_⟩
  · intro records
    exact (ordered_afterAll spec records).registers
  · intro records more
    rw [afterAll_append]
    exact (ordered_afterAll spec records).keys_afterAll more
  · intro records record group accepted retraction
    exact (ordered_afterAll spec records).keeps.indexed.find?_of_retract accepted retraction
  · intro σ next remaining source signals more grouped table
    have now : table = _ := Grouped.table_after next remaining signals grouped
    refine ⟨now, ?_⟩
    rw [now, Grouped.table_after next remaining (signals ++ more) grouped, Grouped.turns_append, Turn.taken_append,
      afterAll_append]
    exact (ordered_afterAll spec _).keys_afterAll _

-- The first insertion of a key is rejected, so another key comes first; its only record is then retracted.
theorem GroupTable.groups_in_step_afterRejection :
    let spec := GroupSpec.byField "k" [⟨"v", .sum, "s"⟩] .changelog .ordered
    let records : List Record := [⟨[("k", .int 2), ("v", .text "x")], .insert⟩, ⟨[("k", .int 1), ("v", .int 5)], .insert⟩,
      ⟨[("k", .int 2), ("v", .int 3)], .insert⟩]
    let record : Record := ⟨[("k", .int 1), ("v", .int 5)], .retract⟩
    (afterAll spec {} records).keys = [[.int 1], [.int 2]] ∧
      (afterAll spec {} records).Registers spec (accepted spec {} records) ∧
      ∃ group, ((afterAll spec {} records).apply spec record).result = .ok group ∧ record.kind = .retract ∧
        ∃ slot before, (afterAll spec {} records).find? group.key = some (slot, before) ∧ before.live = group.live + 1 := by
  intro spec records record
  obtain ⟨registers, _, retractions, _⟩ := groups_in_step spec
  have accepted : ((afterAll spec {} records).apply spec record).result.isOk = true := by decide +kernel
  refine ⟨by decide +kernel, registers records, ?_⟩
  cases result : ((afterAll spec {} records).apply spec record).result with
  | error failure =>
    rw [result] at accepted
    cases accepted
  | ok group => exact ⟨group, rfl, rfl, retractions records record group result rfl⟩

end DeltaQuery
