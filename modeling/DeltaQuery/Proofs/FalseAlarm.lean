import DeltaQuery.Proofs.Pulls
import DeltaQuery.Proofs.Stages

namespace DeltaQuery

theorem Balanced.taken_back {seen : List Record} {record : Record} (balanced : Balanced (seen ++ [record]))
    (retraction : record.kind = .retract) {p : Columns → Bool} (holds : p record.columns = true) :
    seen.countP (fun earlier => p earlier.columns ∧ earlier.kind = .retract) <
      seen.countP (fun earlier => p earlier.columns ∧ earlier.kind = .insert) := by
  have bound := balanced.countP_le p
  rw [List.countP_append, List.countP_append, List.countP_singleton, List.countP_singleton] at bound
  simp only [holds, retraction, decide_true, true_and, reduceCtorEq, and_false, decide_false, if_true,
    Bool.false_eq_true, if_false] at bound
  omega

namespace GroupSpec

variable {spec : GroupSpec} {key : List Value} {column : GroupColumn} {seen : List Record} {record : Record}

def ofKey (spec : GroupSpec) (key : List Value) (columns : Columns) : Bool :=
  spec.keyOf? ⟨columns, .insert⟩ = some key

def feeding (spec : GroupSpec) (key : List Value) (column : GroupColumn) (value : Value) (columns : Columns) : Bool :=
  spec.ofKey key columns && (column.fed? ⟨columns, .insert⟩ = some value)

theorem ofKey_iff : spec.ofKey key record.columns = true ↔ spec.keyOf? record = some key := by
  have same : spec.keyOf? ⟨record.columns, .insert⟩ = spec.keyOf? record :=
    congrArg Except.toOption (spec.evaluateKey_withKind record .insert)
  unfold ofKey
  rw [same, decide_eq_true_eq]

theorem feeding_iff {value : Value} : spec.feeding key column value record.columns = true ↔
    spec.keyOf? record = some key ∧ column.fed? record = some value := by
  unfold feeding
  rw [Bool.and_eq_true, ofKey_iff, decide_eq_true_eq]
  rfl

theorem tally_eq_countP (spec : GroupSpec) (key : List Value) (kind : EventKind) (seen : List Record) :
    spec.tally key kind seen = seen.countP fun earlier => spec.ofKey key earlier.columns ∧ earlier.kind = kind := by
  unfold tally
  refine List.countP_congr ?_
  intro record _
  simp only [decide_eq_true_eq, ofKey_iff]

theorem changeOf?_eq_some {kind : EventKind} {value : Value} (notNull : ¬ value.isNull = true) :
    spec.changeOf? key column record = some (kind, value) ↔
      (spec.keyOf? record = some key ∧ column.fed? record = some value) ∧ record.kind = kind := by
  constructor
  · intro change
    unfold changeOf? at change
    split at change
    · rename_i keyed
      split at change
      · rename_i found fed
        split at change <;> cases change
        exact ⟨⟨keyed, fed⟩, rfl⟩
      · cases change
    · cases change
  · rintro ⟨⟨keyed, fed⟩, rfl⟩
    exact changeOf?_of_value keyed fed notNull

theorem count_valuesOf {value : Value} (notNull : ¬ value.isNull = true) (kind : EventKind) (seen : List Record) :
    (Accumulator.valuesOf kind (spec.changes key column seen)).count value =
      seen.countP fun earlier => spec.feeding key column value earlier.columns ∧ earlier.kind = kind := by
  unfold Accumulator.valuesOf changes
  rw [List.filterMap_filterMap, List.count_filterMap]
  refine List.countP_congr ?_
  intro record _
  rw [beq_iff_eq, decide_eq_true_eq, feeding_iff, ← changeOf?_eq_some notNull]
  cases spec.changeOf? key column record with
  | none => simp
  | some change =>
    obtain ⟨changeKind, changed⟩ := change
    by_cases same : changeKind = kind <;> simp [same]

end GroupSpec

namespace GroupTable

variable {table : GroupTable} {spec : GroupSpec} {seen : List Record} {record : Record} {group : Group}

theorem held_of_balanced {key : List Value} {column : GroupColumn} {accumulator : Accumulator} {value : Value}
    (tracks : accumulator.Tracks (spec.changes key column seen)) (balanced : Balanced (seen ++ [record]))
    (retraction : record.kind = .retract) (keyed : spec.keyOf? record = some key)
    (fed : column.fed? record = some value) (notNull : ¬ value.isNull = true) :
    value ∈ (spec.account key column seen).all.held := by
  have fewer := balanced.taken_back retraction (GroupSpec.feeding_iff.mpr ⟨keyed, fed⟩)
  rw [← GroupSpec.count_valuesOf notNull, ← GroupSpec.count_valuesOf notNull] at fewer
  have whole := tracks.balance.count_eq value
  rw [List.count_append] at whole
  refine List.count_pos_iff.mp ?_
  change 0 < (Account.ofChanges (spec.changes key column seen)).all.held.count value
  omega

theorem check_kind {column : GroupColumn} {accumulator : Accumulator} {key : List Value} {value : Value} {cause : Cause}
    (tracks : accumulator.Tracks (spec.changes key column seen)) (balanced : Balanced (seen ++ [record]))
    (keyed : spec.keyOf? record = some key) (fed : column.fed? record = some value)
    (refused : accumulator.check record.kind value = .error cause) : cause.kind = .evaluation := by
  unfold Accumulator.check at refused
  split at refused
  · cases refused
  · rename_i notNull
    cases kind : record.kind with
    | insert =>
      rw [kind] at refused
      exact Accumulator.checkIncorporate_kind refused
    | retract =>
      rw [kind] at refused
      have held := held_of_balanced tracks balanced kind keyed fed notNull
      exact tracks.keeps.checkUndo_kind (Account.sound_ofChanges _) held refused

theorem update_kind {values : List Value} {failure : Failure} (keeps : group.Keeps spec seen)
    (balanced : Balanced (seen ++ [record])) (keyed : spec.keyOf? record = some group.key)
    (fields : List.Forall₂ (fun column value => column.fed? record = some value) spec.columns values)
    (rejected : group.update spec record.kind values = .failed group failure) : failure.kind ≠ .retraction := by
  rcases Group.update_cases spec group record.kind values with ⟨other, update, why⟩ | ⟨alive, checked, update⟩
  · cases rejected.symm.trans update
    rcases why with ⟨retraction, none⟩ | refused
    · -- There are more inserts of the key than retractions before this one, so a record is live.
      have fewer := balanced.taken_back retraction (GroupSpec.ofKey_iff.mpr keyed)
      rw [← spec.tally_eq_countP, ← spec.tally_eq_countP] at fewer
      have live := keeps.live
      omega
    · obtain ⟨column, accumulator, value, cause, member, ⟨aggregate, tracks⟩, fed, check, kind⟩ :=
        Group.checkFrom_error keeps.columns fields refused
      rw [kind, check_kind tracks balanced keyed fed check]
      exact FailureKind.noConfusion
  · cases rejected.symm.trans update

-- A record that is taken back has been put in with the same columns, hence with the same key and the same fields. So
-- its group is there, has a live record and holds the values.
theorem Keeps.apply_kind {failure : Failure} (keeps : table.Keeps spec seen) (balanced : Balanced (seen ++ [record]))
    (rejected : (table.apply spec record).result = .error failure) : failure.kind ≠ .retraction := by
  cases evaluated : spec.evaluateKey record with
  | error other =>
    unfold GroupTable.apply at rejected
    rw [evaluated] at rejected
    cases rejected
    exact GroupSpec.evaluateKey_kind evaluated
  | ok key =>
    cases evaluatedFields : spec.evaluateFields record with
    | error other =>
      unfold GroupTable.apply at rejected
      rw [evaluated, evaluatedFields] at rejected
      cases rejected
      rw [GroupSpec.fieldsFrom_kind evaluatedFields]
      exact FailureKind.noConfusion
    | ok values =>
      rw [apply_eq_route evaluated evaluatedFields] at rejected
      have keyed := GroupSpec.keyOf?_eq_some.mpr evaluated
      have fields := GroupSpec.fieldsFrom_ok evaluatedFields
      have unseen (absent : table.find? key = none) : ∀ earlier ∈ seen, spec.keyOf? earlier ≠ some key :=
        fun earlier member same =>
          (keeps.known key).mpr ⟨earlier, member, same⟩ (keeps.indexed.find?_eq_none.mp absent)
      have routed := route_cases spec table key record.kind values
      generalize table.route spec key record.kind values = attempt at routed rejected
      cases routed with
      | unseen absent retraction =>
        -- The record has been put in before, so its key has been seen.
        have fewer := balanced.taken_back retraction (GroupSpec.ofKey_iff.mpr keyed)
        obtain ⟨earlier, member, found⟩ := List.countP_pos_iff.mp (Nat.lt_of_le_of_lt (Nat.zero_le _) fewer)
        rw [decide_eq_true_eq, GroupSpec.ofKey_iff] at found
        exact absurd found.1 (unseen absent earlier member)
      | @refused other group home update =>
        cases rejected
        rcases home with ⟨slot, found⟩ | ⟨absent, insertion, rfl⟩
        · have sameKey := keeps.indexed.key_of_find? found
          obtain ⟨entry, stands⟩ := find?_eq_some.mp found
          exact update_kind (keeps.groups slot group stands) balanced (sameKey ▸ keyed) fields update
        · exact update_kind (Group.keeps_fresh (unseen absent)) balanced keyed fields update
      | changed => cases rejected
      | entered => cases rejected

end GroupTable

namespace Grouped

variable {σ : Type} {next : Pull σ} {held : List Record → σ → Prop} {grouped : Grouped σ}

def Trusted (held : List Record → σ → Prop) (grouped : Grouped σ) : Prop :=
  grouped.grouping.phase = .open →
    ∃ seen, grouped.grouping.table.Keeps grouped.grouping.spec seen ∧ held seen grouped.source

def Trusting (held : List Record → σ → Prop) (pulled : Pulled (Grouped σ)) : Prop :=
  (∀ failure, pulled.answer = .error failure → failure.kind ≠ .retraction) ∧ Trusted held pulled.stream

theorem trusted_of_phase (notOpen : grouped.grouping.phase ≠ .open) : Trusted held grouped :=
  fun isOpen => absurd isOpen notOpen

theorem fail_trusting (grouped : Grouped σ) (cancelled : Bool) {failure : Failure} (kind : failure.kind ≠ .retraction) :
    Trusting held (grouped.fail failure cancelled) := by
  refine ⟨?_, trusted_of_phase Phase.noConfusion⟩
  intro other failed
  cases failed
  exact kind

theorem gives_held (honest : next.Honest held) {stream source : σ} {cancelled signal : Bool} {seen records : List Record}
    (gives : Pull.Gives next stream cancelled records source signal) (holds : held seen stream) :
    held (seen ++ records) source := by
  induction gives generalizing seen with
  | nothing => rwa [List.append_nil]
  | @record stream last cancelled signal record records answer rest ih =>
    have after := (honest.sound cancelled holds).record record answer
    have whole := ih after
    rwa [List.append_assoc, List.singleton_append] at whole

theorem Drained.trusting {cancelled : Bool} {pulled : Pulled (Grouped σ)} (drained : Drained grouped cancelled pulled)
    (draining : grouped.grouping.phase = .draining) : Trusting held pulled := by
  have stillDraining : grouped.grouping.phase ≠ .open := by
    rw [draining]
    exact Phase.noConfusion
  cases drained with
  | finished => exact ⟨nofun, trusted_of_phase Phase.noConfusion⟩
  | stopped calledOff => exact fail_trusting _ _ FailureKind.noConfusion
  | row found built => exact ⟨nofun, trusted_of_phase stillDraining⟩

theorem Ending.trusting (honest : next.Honest held) {seen : List Record} {cancelled : Bool} {pulled : Pulled (Grouped σ)}
    (keeps : grouped.grouping.table.Keeps grouped.grouping.spec seen) (holds : held seen grouped.source)
    (ending : Ending next grouped cancelled pulled) : Trusting held pulled := by
  have sound := honest.sound cancelled holds
  cases ending with
  | stopped calledOff => exact fail_trusting _ _ FailureKind.noConfusion
  | failed answer => exact fail_trusting _ _ (sound.failed _ answer)
  | ended answer => exact (drain_cases _ _).trusting rfl
  | @rejected record failure answer rejection =>
    exact fail_trusting _ _ (keeps.apply_kind (honest.balanced (sound.record record answer)) rejection)
  | @row record group answer accepted changelog =>
    obtain ⟨row, built⟩ := group.row_exists grouped.grouping.spec record.kind
    rw [built]
    refine ⟨nofun, ?_⟩
    intro stillOpen
    exact ⟨seen ++ [record], (keeps.apply accepted).1, sound.record record answer⟩
  | endless answer accepted final => exact fail_trusting _ _ FailureKind.noConfusion

theorem pull_trusting (honest : next.Honest held) (remaining : σ → Nat) (cancelled : Bool)
    (trusted : Trusted held grouped) : Trusting held (pull next remaining grouped cancelled) := by
  have byPhase := pull_byPhase next remaining grouped cancelled
  generalize pull next remaining grouped cancelled = pulled at byPhase ⊢
  cases byPhase with
  | absorbing isOpen fuel =>
    obtain ⟨seen, keeps, holds⟩ := trusted isOpen
    obtain ⟨records, source, signal, table, gives, applied, ending⟩ := absorb_cases next fuel grouped cancelled
    have keepsAll : (grouped.taken table source).grouping.table.Keeps grouped.grouping.spec (seen ++ records) :=
      keeps.applyAll applied
    exact ending.trusting honest keepsAll (gives_held honest gives holds)
  | draining phase => exact (drain_cases grouped cancelled).trusting phase
  | closed phase => exact ⟨nofun, trusted⟩
  | failed phase =>
    refine ⟨?_, trusted⟩
    intro failure failed
    cases failed
    exact FailureKind.noConfusion

end Grouped

end DeltaQuery
