import DeltaQuery.Proofs.Pulls

namespace DeltaQuery

theorem Record.names_ofLists {names : List String} {values : List Value} (aligned : names.length = values.length)
    (kind : EventKind) : (Record.ofLists names values kind).names = names :=
  List.map_fst_zip (Nat.le_of_eq aligned)

theorem Record.values_ofLists {names : List String} {values : List Value} (aligned : names.length = values.length)
    (kind : EventKind) : (Record.ofLists names values kind).values = values :=
  List.map_snd_zip (Nat.le_of_eq aligned.symm)

theorem Formula.evaluateEach_cons {place : Nat → Place} {record : Record} {index : Nat} {formula : Formula}
    {formulas : List Formula} {values : List Value} :
    evaluateEach place record index (formula :: formulas) = .ok values ↔
      ∃ value, formula.evaluate record = .ok value ∧
        ∃ others, evaluateEach place record (index + 1) formulas = .ok others ∧ value :: others = values := by
  rw [evaluateEach]
  cases formula.evaluate record with
  | error cause => simp
  | ok value =>
    cases evaluateEach place record (index + 1) formulas <;> simp [Except.map]

theorem Formula.length_of_evaluateEach {place : Nat → Place} {record : Record} {index : Nat} {formulas : List Formula}
    {values : List Value} (evaluated : Formula.evaluateEach place record index formulas = .ok values) :
    values.length = formulas.length := by
  induction formulas generalizing index values with
  | nil =>
    cases evaluated
    rfl
  | cons formula formulas ih =>
    obtain ⟨value, _, others, rest, rfl⟩ := Formula.evaluateEach_cons.mp evaluated
    exact congrArg (· + 1) (ih rest)

namespace Group

variable {spec : GroupSpec} {group : Group} {seen : List Record}

theorem cellsOf_forall₂ {key : List Value} {columns : List GroupColumn} {accumulators : List Accumulator}
    (held : List.Forall₂ (ColumnKeeps spec key seen) columns accumulators) :
    ∃ cells, cellsOf accumulators = .ok cells ∧
      columns.map (fun column => column.aggregate.recomputed (spec.account key column seen)) = cells.map some := by
  induction held with
  | nil => exact ⟨[], rfl, rfl⟩
  | @cons column accumulator columns accumulators first rest ih =>
    obtain ⟨aggregate, tracks⟩ := first
    obtain ⟨value, cell, recomputed⟩ := tracks.keeps.cell (Account.sound_ofChanges _)
    obtain ⟨cells, others, recomputedOthers⟩ := ih
    refine ⟨value :: cells, ?_, ?_⟩
    · rw [cellsOf, cell, others]
      rfl
    · rw [aggregate] at recomputed
      rw [List.map_cons, List.map_cons, recomputedOthers]
      exact congrArg (· :: cells.map some) recomputed

theorem Keeps.row (keeps : group.Keeps spec seen) (keyed : group.key.length = spec.key.length) (kind : EventKind) :
    ∃ row cells, group.row spec kind = .ok row ∧ row.kind = kind ∧
      row.names = spec.keyNames ++ spec.columns.map (·.name) ∧ row.values = group.key ++ cells ∧
      spec.columns.map (fun column => column.aggregate.recomputed (spec.account group.key column seen)) =
        cells.map some := by
  obtain ⟨cells, built, recomputed⟩ := cellsOf_forall₂ keeps.columns
  have width : spec.columns.length = cells.length := by simpa using congrArg List.length recomputed
  have aligned : spec.rowNames.length = (group.key ++ cells).length := by
    unfold GroupSpec.rowNames
    rw [List.length_append, List.length_append, List.length_map, keyed, spec.aligned, width]
  refine ⟨.ofLists spec.rowNames (group.key ++ cells) kind, cells, ?_, rfl, ?_, ?_, recomputed⟩
  · unfold Group.row
    rw [built]
    rfl
  · exact Record.names_ofLists aligned kind
  · exact Record.values_ofLists aligned kind

end Group

namespace Grouped

variable {σ : Type} {next : Pull σ} {grouped : Grouped σ}

theorem changelog_pull (remaining : σ → Nat) {cancelled : Bool} {record : Record} {answer : Option Record}
    (isOpen : grouped.grouping.phase = .open) (changelog : grouped.grouping.spec.emitMode = .changelog)
    (input : (next grouped.source cancelled).answer = .ok (some record))
    (answered : (pull next remaining grouped cancelled).answer = .ok answer) :
    ∃ group, (grouped.grouping.table.apply grouped.grouping.spec record).result = .ok group ∧
      pull next remaining grouped cancelled =
        (grouped.taken (grouped.grouping.table.apply grouped.grouping.spec record).state
          (next grouped.source cancelled).stream).answering (group.row grouped.grouping.spec record.kind)
          (next grouped.source cancelled).cancelled := by
  obtain ⟨fuel, absorbed⟩ := pull_open next cancelled remaining isOpen
  rw [absorbed] at answered ⊢
  rcases absorb_step next fuel grouped cancelled with ending | ⟨_, _, _, _, _, final, _⟩
  · generalize absorb next fuel grouped cancelled = pulled at ending answered
    cases ending with
    | stopped calledOff => cases answered
    | failed below => cases answered
    | ended below => cases below.symm.trans input
    | rejected below rejection => cases answered
    | row below accepted mode =>
      cases below.symm.trans input
      exact ⟨_, accepted, rfl⟩
    | endless below accepted final => cases answered
  · cases changelog.symm.trans final

theorem changelog_rows_from (remaining : σ → Nat) {signals : List Bool} {seen records : List Record}
    (isOpen : grouped.grouping.phase = .open) (changelog : grouped.grouping.spec.emitMode = .changelog)
    (keeps : grouped.grouping.table.Keeps grouped.grouping.spec seen)
    (input : next.answers signals grouped.source = records.map fun record => .ok (some record))
    (noError : ∀ answer ∈ (pull next remaining : Pull (Grouped σ)).answers signals grouped, ∃ row, answer = .ok row)
    {n : Nat} (inRange : n < records.length) :
    ∃ (group : Group) (row : Record), group.Keeps grouped.grouping.spec (seen ++ records.take (n + 1)) ∧
      grouped.grouping.spec.evaluateKey records[n] = .ok group.key ∧
      group.row grouped.grouping.spec records[n].kind = .ok row ∧
      ((pull next remaining : Pull (Grouped σ)).answers signals grouped)[n]? = some (.ok (some row)) := by
  induction signals generalizing grouped seen records n with
  | nil =>
    cases records with
    | nil => exact absurd inRange (Nat.not_lt_zero n)
    | cons => cases input
  | cons cancelled signals ih =>
    cases records with
    | nil => cases input
    | cons record records =>
      rw [Pull.answers, List.map_cons, List.cons.injEq] at input
      obtain ⟨given, later⟩ := input
      rw [Pull.answers, List.forall_mem_cons] at noError
      obtain ⟨⟨answer, answered⟩, noLaterError⟩ := noError
      obtain ⟨group, accepted, pulled⟩ := changelog_pull remaining isOpen changelog given answered
      obtain ⟨tableKeeps, groupKeeps, keyed⟩ := keeps.apply accepted
      obtain ⟨row, built⟩ := group.row_exists grouped.grouping.spec record.kind
      rw [built] at pulled
      rw [pulled] at noLaterError
      rw [Pull.answers, pulled]
      cases n with
      | zero => exact ⟨group, row, groupKeeps, GroupSpec.keyOf?_eq_some.mp keyed, built, rfl⟩
      | succ n =>
        have stillOpen : (grouped.taken (grouped.grouping.table.apply grouped.grouping.spec record).state
            (next grouped.source cancelled).stream).grouping.phase = .open := isOpen
        have rest := ih stillOpen changelog tableKeeps later noLaterError (Nat.lt_of_succ_lt_succ inRange)
        rw [List.append_assoc] at rest
        exact rest

-- The groups keep the accounts of the records accepted so far, and a pull that does not fail accepts one record. So
-- its row is the one recomputed from all records up to that one.
theorem changelog_rows (spec : GroupSpec) (changelog : spec.emitMode = .changelog) (next : Pull σ)
    (remaining : σ → Nat) {source : σ} {signals : List Bool} {records : List Record}
    (input : next.answers signals source = records.map fun record => .ok (some record))
    (noError : ∀ answer ∈ (pull next remaining).answers signals ⟨{ spec }, source⟩, ∃ row, answer = .ok row)
    {n : Nat} (inRange : n < records.length) :
    ∃ row key cells, ((pull next remaining).answers signals ⟨{ spec }, source⟩)[n]? = some (.ok (some row)) ∧
      row.kind = records[n].kind ∧ row.names = spec.keyNames ++ spec.columns.map (·.name) ∧
      row.values = key ++ cells ∧ spec.evaluateKey records[n] = .ok key ∧
      spec.columns.map (fun column => column.aggregate.recomputed (spec.account key column (records.take (n + 1)))) =
        cells.map some := by
  let start : Grouped σ := ⟨{ spec }, source⟩
  have isOpen : start.grouping.phase = .open := rfl
  obtain ⟨group, row, keeps, keyed, built, answered⟩ :=
    changelog_rows_from remaining isOpen changelog (GroupTable.keeps_empty spec) input noError inRange
  obtain ⟨again, cells, rebuilt, kind, names, values, recomputed⟩ :=
    keeps.row (Formula.length_of_evaluateEach keyed) records[n].kind
  cases rebuilt.symm.trans built
  exact ⟨row, group.key, cells, answered, kind, names, values, keyed, recomputed⟩

def comingAndGoing : Grouped Feed where
  grouping := {
    spec := .byField "k" [⟨"v", .sum, "sum"⟩, ⟨"v", .countDistinct, "values"⟩, ⟨"", .count, "records"⟩] .changelog
      .rescan }
  source := .replay [
    ⟨[("k", .int 1), ("v", .int 5)], .insert⟩,
    ⟨[("k", .int 1), ("v", .null)], .insert⟩,
    ⟨[("k", .int 1), ("v", .int 5)], .retract⟩]

theorem changelog_rows_comingAndGoing :
    (pull Feed.pull Feed.remaining).answers [false, false, false] comingAndGoing = [
        .ok (some ⟨[("k", .int 1), ("sum", .int 5), ("values", .int 1), ("records", .int 1)], .insert⟩),
        .ok (some ⟨[("k", .int 1), ("sum", .int 5), ("values", .int 1), ("records", .int 2)], .insert⟩),
        .ok (some ⟨[("k", .int 1), ("sum", .null), ("values", .int 0), ("records", .int 1)], .retract⟩)] ∧
      ∃ row key cells, ((pull Feed.pull Feed.remaining).answers [false, false, false] comingAndGoing)[2]? =
          some (.ok (some row)) ∧ row.values = key ++ cells ∧
        comingAndGoing.grouping.spec.columns.map (fun column => column.aggregate.recomputed
          (comingAndGoing.grouping.spec.account key column [
            ⟨[("k", .int 1), ("v", .int 5)], .insert⟩, ⟨[("k", .int 1), ("v", .null)], .insert⟩,
            ⟨[("k", .int 1), ("v", .int 5)], .retract⟩])) = cells.map some := by
  have rows : (pull Feed.pull Feed.remaining).answers [false, false, false] comingAndGoing = [
      .ok (some ⟨[("k", .int 1), ("sum", .int 5), ("values", .int 1), ("records", .int 1)], .insert⟩),
      .ok (some ⟨[("k", .int 1), ("sum", .int 5), ("values", .int 1), ("records", .int 2)], .insert⟩),
      .ok (some ⟨[("k", .int 1), ("sum", .null), ("values", .int 0), ("records", .int 1)], .retract⟩)] := by
    decide +kernel
  have noError : ∀ answer ∈ (pull Feed.pull Feed.remaining).answers [false, false, false] comingAndGoing,
      ∃ row, answer = .ok row := by
    rw [rows]
    simp
  obtain ⟨row, key, cells, answered, _, _, values, _, recomputed⟩ :=
    @changelog_rows Feed comingAndGoing.grouping.spec rfl Feed.pull Feed.remaining comingAndGoing.source
      [false, false, false] [⟨[("k", .int 1), ("v", .int 5)], .insert⟩, ⟨[("k", .int 1), ("v", .null)], .insert⟩,
        ⟨[("k", .int 1), ("v", .int 5)], .retract⟩] rfl noError 2 (by decide)
  exact ⟨rows, row, key, cells, answered, values, recomputed⟩

end Grouped

end DeltaQuery
