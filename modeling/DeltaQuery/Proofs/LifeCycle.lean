import DeltaQuery.Proofs.SinkColumns
import DeltaQuery.Proofs.Turns

namespace DeltaQuery

inductive Phase.Moves : Phase → Phase → Prop
  | drain : Moves .open .draining
  | close : Moves .draining .closed
  | giveUp : Moves .open .failed
  | breakOff : Moves .draining .failed

namespace Grouping

variable {before after grouping : Grouping} {answer : Answer} {turn : Turn}

theorem Drains.moves (drains : grouping.Drains answer after) (draining : grouping.phase = .draining) :
    Relation.ReflTransGen Phase.Moves .draining after.phase := by
  cases drains with
  | finished => exact .single .close
  | stopped => exact .single .breakOff
  | row final found built => exact draining ▸ .refl

theorem Makes.moves (step : before.Makes turn) : Relation.ReflTransGen Phase.Moves before.phase turn.grouping.phase := by
  cases step with
  | failed phase => exact .refl
  | closed phase => exact .refl
  | drained phase drains => exact phase ▸ drains.moves phase
  | gaveUp phase taken => exact phase ▸ .single .giveUp
  | answered phase changelog taken => exact .refl
  | ended phase taken drains => exact phase ▸ .head .drain (drains.moves rfl)

theorem Drains.phase_iff (drains : grouping.Drains answer after) (draining : grouping.phase = .draining) :
    (after.phase = .failed ↔ ∃ failure, answer = .error failure) ∧ (after.phase = .closed ↔ answer = .ok none) := by
  cases drains <;> simp [draining]

theorem Makes.phase_iff (step : before.Makes turn) :
    (turn.grouping.phase = .failed ↔ ∃ failure, turn.answer = .error failure) ∧
      (turn.grouping.phase = .closed ↔ turn.answer = .ok none) := by
  cases step with
  | drained phase drains => exact drains.phase_iff phase
  | ended phase taken drains => exact drains.phase_iff rfl
  | failed phase => simp [phase]
  | closed phase => simp [phase]
  | gaveUp phase taken => simp
  | answered phase changelog taken => simp [phase]

theorem Makes.of_failed (step : before.Makes turn) (failed : before.phase = .failed) :
    turn = ⟨.error (Failure.of .pulledAfterFailure), [], before⟩ := by
  cases step with
  | failed => rfl
  | _ phase => cases failed.symm.trans phase

theorem Makes.of_closed (step : before.Makes turn) (closed : before.phase = .closed) : turn = ⟨.ok none, [], before⟩ := by
  cases step with
  | closed => rfl
  | _ phase => cases closed.symm.trans phase

theorem Makes.of_draining (step : before.Makes turn) (draining : before.phase = .draining) :
    before.Drains turn.answer turn.grouping ∧ turn.below = [] := by
  cases step with
  | drained phase drains => exact ⟨drains, rfl⟩
  | _ phase => cases draining.symm.trans phase

theorem Drains.spec_eq (drains : grouping.Drains answer after) : after.spec = grouping.spec := by
  cases drains <;> rfl

theorem Makes.spec_eq (step : before.Makes turn) : turn.grouping.spec = before.spec := by
  cases step with
  | drained phase drains => exact drains.spec_eq
  | ended phase taken drains => exact drains.spec_eq
  | _ => rfl

theorem Makes.quiet (step : before.Makes turn) (notOpen : before.phase ≠ .open) :
    turn.below = [] ∧ turn.grouping.phase ≠ .open := by
  cases step with
  | failed phase => exact ⟨rfl, notOpen⟩
  | closed phase => exact ⟨rfl, notOpen⟩
  | drained phase drains =>
    refine ⟨rfl, ?_⟩
    cases drains with
    | row final found built => exact notOpen
    | _ => nofun
  | _ phase => exact absurd phase notOpen

theorem Makes.cost (step : before.Makes turn) (changelog : before.spec.emitMode = .changelog) {row : Record}
    (answered : turn.answer = .ok (some row)) : ∃ record, turn.below = [.ok (some record)] := by
  have noRow {grouping after : Grouping} (drains : grouping.Drains turn.answer after)
      (changelog : grouping.spec.emitMode = .changelog) : False := by
    rw [answered] at drains
    cases drains with
    | row final => cases changelog.symm.trans final
  cases step with
  | @answered record row table phase mode taken => exact ⟨record, rfl⟩
  | drained phase drains => exact (noRow drains changelog).elim
  | ended phase taken drains => exact (noRow drains changelog).elim
  | _ => cases answered

end Grouping

structure Turn.Settles (turn later : Turn) : Prop where
  failed : ∀ failure, turn.answer = .error failure →
    later = ⟨.error (Failure.of .pulledAfterFailure), [], turn.grouping⟩
  ended : turn.answer = .ok none → later = ⟨.ok none, [], turn.grouping⟩

def Answer.row? : Answer → Option Record
  | .ok given => given
  | .error _ => none

def Turn.rows (turns : List Turn) : List Record := turns.filterMap (·.answer.row?)

theorem Turn.mem_rows {turns : List Turn} {row : Record} :
    row ∈ Turn.rows turns ↔ ∃ turn ∈ turns, turn.answer = .ok (some row) := by
  have gives (answer : Answer) : answer.row? = some row ↔ answer = .ok (some row) := by
    cases answer <;> simp [Answer.row?]
  simp only [rows, List.mem_filterMap, gives]

theorem Turn.below_of_split {first turn : Turn} {rest earlier later : List Turn} (quiet : ∀ turn ∈ rest, turn.below = [])
    (split : first :: rest = earlier ++ turn :: later) : (earlier ++ [turn]).flatMap (·.below) = first.below := by
  cases earlier with
  | nil =>
    cases split
    exact List.flatMap_singleton _ _
  | cons other earlier =>
    rw [List.cons_append, List.cons.injEq] at split
    obtain ⟨rfl, rfl⟩ := split
    have nothing : (earlier ++ [turn]).flatMap (·.below) = [] := by
      refine List.flatMap_eq_nil_iff.mpr fun asked member => quiet asked ?_
      rw [List.append_cons]
      exact List.mem_append_left later member
    rw [List.cons_append, List.flatMap_cons, nothing, List.append_nil]

namespace Grouping

-- Turns one after the other, from the grouping before them.
inductive Course : Grouping → List Turn → Prop
  | nothing {before : Grouping} : Course before []
  | turn {before : Grouping} {turn : Turn} {turns : List Turn} (step : before.Makes turn)
      (rest : Course turn.grouping turns) : Course before (turn :: turns)

variable {before : Grouping} {turns : List Turn}

theorem Course.moves (course : before.Course turns) :
    (before.phase :: turns.map (·.grouping.phase)).IsChain (Relation.ReflTransGen Phase.Moves) := by
  induction course with
  | nothing => exact .singleton _
  | turn step rest ih => exact .cons_cons step.moves ih

theorem Course.phase_iff (course : before.Course turns) :
    ∀ turn ∈ turns, (turn.grouping.phase = .failed ↔ ∃ failure, turn.answer = .error failure) ∧
      (turn.grouping.phase = .closed ↔ turn.answer = .ok none) := by
  induction course with
  | nothing => exact List.forall_mem_nil _
  | turn step rest ih => exact List.forall_mem_cons.mpr ⟨step.phase_iff, ih⟩

theorem Course.of_failed (course : before.Course turns) (failed : before.phase = .failed) :
    ∀ turn ∈ turns, turn = ⟨.error (Failure.of .pulledAfterFailure), [], before⟩ := by
  induction course with
  | nothing => exact List.forall_mem_nil _
  | turn step rest ih =>
    obtain rfl := step.of_failed failed
    exact List.forall_mem_cons.mpr ⟨rfl, ih failed⟩

theorem Course.of_closed (course : before.Course turns) (closed : before.phase = .closed) :
    ∀ turn ∈ turns, turn = ⟨.ok none, [], before⟩ := by
  induction course with
  | nothing => exact List.forall_mem_nil _
  | turn step rest ih =>
    obtain rfl := step.of_closed closed
    exact List.forall_mem_cons.mpr ⟨rfl, ih closed⟩

theorem Course.settles (course : before.Course turns) : turns.Pairwise Turn.Settles := by
  induction course with
  | nothing => exact .nil
  | turn step rest ih =>
    refine .cons ?_ ih
    intro later member
    refine ⟨?_, ?_⟩
    · intro failure failed
      exact rest.of_failed (step.phase_iff.1.mpr ⟨failure, failed⟩) later member
    · intro ended
      exact rest.of_closed (step.phase_iff.2.mpr ended) later member

theorem Course.quiet (course : before.Course turns) (notOpen : before.phase ≠ .open) : ∀ turn ∈ turns, turn.below = [] := by
  induction course with
  | nothing => exact List.forall_mem_nil _
  | turn step rest ih =>
    obtain ⟨nothing, still⟩ := step.quiet notOpen
    exact List.forall_mem_cons.mpr ⟨nothing, ih still⟩

theorem Course.cost (course : before.Course turns) (changelog : before.spec.emitMode = .changelog) :
    ∀ turn ∈ turns, ∀ row, turn.answer = .ok (some row) → ∃ record, turn.below = [.ok (some record)] := by
  induction course with
  | nothing => exact List.forall_mem_nil _
  | turn step rest ih =>
    exact List.forall_mem_cons.mpr ⟨fun _ => step.cost changelog, ih (step.spec_eq ▸ changelog)⟩

theorem Course.rows_of_failed (course : before.Course turns) (failed : before.phase = .failed) : Turn.rows turns = [] := by
  refine List.filterMap_eq_nil_iff.mpr fun turn member => ?_
  rw [course.of_failed failed turn member]
  rfl

theorem Course.rows_of_closed (course : before.Course turns) (closed : before.phase = .closed) : Turn.rows turns = [] := by
  refine List.filterMap_eq_nil_iff.mpr fun turn member => ?_
  rw [course.of_closed closed turn member]
  rfl

theorem Course.rows_of_draining (course : before.Course turns) (draining : before.phase = .draining) :
    ∃ groups, groups <+: before.table.liveGroups before.drained ∧
      List.Forall₂ (fun group row => group.row before.spec .insert = .ok row) groups (Turn.rows turns) := by
  induction course with
  | nothing => exact ⟨[], List.nil_prefix, .nil⟩
  | @turn before turn turns step rest ih =>
    obtain ⟨answer, below, after⟩ := turn
    have drains := (step.of_draining draining).1
    dsimp only at drains rest ih
    cases drains with
    | finished =>
      refine ⟨[], List.nil_prefix, ?_⟩
      change List.Forall₂ _ [] (Turn.rows turns)
      rw [rest.rows_of_closed rfl]
      exact .nil
    | stopped =>
      refine ⟨[], List.nil_prefix, ?_⟩
      change List.Forall₂ _ [] (Turn.rows turns)
      rw [rest.rows_of_failed rfl]
      exact .nil
    | @row final slot group row found built =>
      obtain ⟨groups, first, made⟩ := ih draining
      rcases before.table.liveFrom?_cases before.drained with ⟨none, _⟩ | ⟨_, _, same, _, _, live⟩
      · cases none.symm.trans found
      · cases same.symm.trans found
        rw [live]
        exact ⟨group :: groups, List.cons_prefix_cons.mpr ⟨rfl, first⟩, .cons built made⟩

theorem Course.rows_of_open (course : before.Course turns) (isOpen : before.phase = .open)
    (final : before.spec.emitMode = .final) :
    ∃ records table groups, before.table.applyAll before.spec records = .ok table ∧
      groups <+: table.liveGroups before.drained ∧
      List.Forall₂ (fun group row => group.row before.spec .insert = .ok row) groups (Turn.rows turns) ∧
      ∀ earlier turn later row, turns = earlier ++ turn :: later → turn.answer = .ok (some row) →
        (earlier ++ [turn]).flatMap (·.below) = (records.map fun record => .ok (some record)) ++ [.ok none] := by
  cases course with
  | nothing =>
    refine ⟨[], before.table, [], rfl, List.nil_prefix, .nil, ?_⟩
    intro earlier turn later row split
    cases (List.append_eq_nil_iff.mp split.symm).2
  | @turn _ _ turns step rest =>
    cases step with
    | failed phase => cases isOpen.symm.trans phase
    | closed phase => cases isOpen.symm.trans phase
    | drained phase => cases isOpen.symm.trans phase
    | answered phase changelog taken => cases final.symm.trans changelog
    | @gaveUp failure below _ table phase taken =>
      have nothing : Turn.rows (⟨.error failure, below, { before with table, phase := .failed }⟩ :: turns) = [] :=
        rest.rows_of_failed rfl
      refine ⟨[], before.table, [], rfl, List.nil_prefix, nothing ▸ .nil, ?_⟩
      intro earlier turn later row split answered
      have given : row ∈ Turn.rows (earlier ++ turn :: later) :=
        Turn.mem_rows.mpr ⟨turn, List.mem_append_right earlier List.mem_cons_self, answered⟩
      rw [← split, nothing] at given
      cases given
    | @ended records table answer after phase taken drains =>
      -- What comes after the last record is a drain from the start.
      have draining : Course { before with table, phase := .draining } (⟨answer, [], after⟩ :: turns) :=
        .turn (.drained rfl drains) rest
      obtain ⟨groups, first, made⟩ := draining.rows_of_draining rfl
      refine ⟨records, table, groups, taken, first, made, ?_⟩
      intro earlier turn later row split answered
      exact Turn.below_of_split (fun turn member => draining.quiet nofun turn (List.mem_cons_of_mem _ member)) split

end Grouping

namespace GroupTable

variable {table : GroupTable} {spec : GroupSpec} {seen rows : List Record} {groups : List Group}

theorem keys_of_rows (keyed : ∀ group ∈ groups, ∀ row, group.row spec .insert = .ok row →
      row.values.take spec.key.length = group.key)
    (made : List.Forall₂ (fun group row => group.row spec .insert = .ok row) groups rows) :
    (rows.map fun row => row.values.take spec.key.length) = groups.map (·.key) := by
  induction made with
  | nil => rfl
  | @cons group row groups rows built others ih =>
    rw [List.map_cons, List.map_cons, keyed group List.mem_cons_self row built,
      ih fun other member => keyed other (List.mem_cons_of_mem _ member)]

theorem Keeps.nodup_rows (keeps : table.Keeps spec seen) {start : Nat} (among : groups <+: table.liveGroups start)
    (made : List.Forall₂ (fun group row => group.row spec .insert = .ok row) groups rows) : rows.Nodup := by
  have standing : groups.Sublist table.groups.toList :=
    among.sublist.trans (List.filter_sublist.trans (List.drop_sublist start _))
  have keyed : ∀ group ∈ groups, ∀ row, group.row spec .insert = .ok row →
      row.values.take spec.key.length = group.key := by
    intro group member row built
    obtain ⟨slot, stands⟩ := List.getElem?_of_mem (standing.subset member)
    rw [Array.getElem?_toList] at stands
    exact (keeps.groups slot group stands).take_row (keeps.keyed stands) built
  refine List.Nodup.of_map (fun row => row.values.take spec.key.length) ?_
  rw [keys_of_rows keyed made]
  exact keeps.indexed.nodup_keys.sublist (standing.map _)

end GroupTable

namespace Grouped

variable {σ : Type}

theorem course (next : Pull σ) (remaining : σ → Nat) (signals : List Bool) (grouped : Grouped σ) :
    grouped.grouping.Course (turns next remaining signals grouped) := by
  induction signals generalizing grouped with
  | nil => exact .nothing
  | cons cancelled signals ih => exact .turn (makes_turn next remaining grouped cancelled) (ih _)

-- However often a grouping is pulled and whatever the stream below does, also after its end or a failure: the phase moves
-- on and never back; after a failure or an end, every pull comes to one and the same without asking below. By changelog,
-- each row costs one record. At the end, the rows come after all records and their end, and no two of them are alike,
-- since they are those of the live groups, one by one.
theorem life_cycle (next : Pull σ) (remaining : σ → Nat) (spec : GroupSpec) (source : σ) (signals : List Bool) :
    let turns := turns next remaining signals ⟨{ spec }, source⟩
    (Phase.open :: turns.map (·.grouping.phase)).IsChain (Relation.ReflTransGen Phase.Moves) ∧
      (∀ turn ∈ turns, (turn.grouping.phase = .failed ↔ ∃ failure, turn.answer = .error failure) ∧
        (turn.grouping.phase = .closed ↔ turn.answer = .ok none)) ∧
      turns.Pairwise Turn.Settles ∧ (Failure.of .pulledAfterFailure).kind = .internal ∧
      (spec.emitMode = .changelog →
        ∀ turn ∈ turns, ∀ row, turn.answer = .ok (some row) → ∃ record, turn.below = [.ok (some record)]) ∧
      (spec.emitMode = .final →
        (Turn.rows turns).Nodup ∧ ∃ records table groups, GroupTable.applyAll spec {} records = .ok table ∧
          groups <+: table.liveGroups 0 ∧
          List.Forall₂ (fun group row => group.row spec .insert = .ok row) groups (Turn.rows turns) ∧
          ∀ earlier turn later row, turns = earlier ++ turn :: later → turn.answer = .ok (some row) →
            (earlier ++ [turn]).flatMap (·.below) = (records.map fun record => .ok (some record)) ++ [.ok none]) := by
  intro turns
  have course : Grouping.Course { spec } turns := course next remaining signals ⟨{ spec }, source⟩
  refine ⟨course.moves, course.phase_iff, course.settles, rfl, course.cost, ?_⟩
  intro final
  obtain ⟨records, table, groups, taken, first, made, asked⟩ := course.rows_of_open rfl final
  have keeps := (GroupTable.keeps_empty spec).applyAll taken
  exact ⟨keeps.nodup_rows first made, records, table, groups, taken, first, made, asked⟩

def ofAnswers : Pull (List Answer) := fun answers cancelled =>
  { answer := answers.headD (.ok none), stream := answers.tail, cancelled }

-- Two records and the end, then a third record that is never asked for.
theorem life_cycle_afterTheEnd :
    let spec := GroupSpec.byField "k" [⟨"", .count, "n"⟩] .final .ordered
    let one : Answer := .ok (some ⟨[("k", .int 1)], .insert⟩)
    let two : Answer := .ok (some ⟨[("k", .int 2)], .insert⟩)
    let turns := turns ofAnswers (fun _ => 2) [false, false, false, true] ⟨{ spec }, [one, two, .ok none, one]⟩
    turns.map (fun turn => (turn.answer, turn.below)) = [
        (.ok (some ⟨[("k", .int 1), ("n", .int 1)], .insert⟩), [one, two, .ok none]),
        (.ok (some ⟨[("k", .int 2), ("n", .int 1)], .insert⟩), []), (.ok none, []), (.ok none, [])] ∧
      turns.Pairwise Turn.Settles ∧ (Turn.rows turns).Nodup := by
  intro spec one two turns
  obtain ⟨_, _, settles, _, _, atTheEnd⟩ :=
    life_cycle ofAnswers (fun _ => 2) spec [one, two, .ok none, one] [false, false, false, true]
  exact ⟨by decide +kernel, settles, (atTheEnd rfl).1⟩

end Grouped

end DeltaQuery
