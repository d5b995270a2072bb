import DeltaQuery.Proofs.Table
import Mathlib.Algebra.BigOperators.Group.List.Lemmas
import Mathlib.Algebra.Ring.Nat

namespace DeltaQuery

theorem CopiesOf.sum_eq_length {counts : Std.TreeMap Value Nat Value.compare} {values : List Value}
    (copied : CopiesOf counts values) : (counts.toList.map (·.2)).sum = values.length := by
  have entry (value : Value) (copies : Nat) :
      (value, copies) ∈ counts.toList ↔ value ∈ values ∧ values.count value = copies := by
    rw [Std.TreeMap.mem_toList_iff_getElem?_eq_some, copied value]
    split <;> simp [*]
  have distinct : (counts.toList.map (·.1)).Nodup := by
    rw [Std.TreeMap.map_fst_toList_eq_keys]
    exact Std.TreeMap.nodup_keys
  have keys : (counts.toList.map (·.1)).Perm values.dedup := by
    rw [List.perm_ext_iff_of_nodup distinct (List.nodup_dedup values)]
    intro value
    rw [List.mem_map, List.mem_dedup]
    constructor
    · rintro ⟨⟨_, copies⟩, member, rfl⟩
      exact ((entry _ copies).mp member).1
    · intro held
      exact ⟨(value, values.count value), (entry _ _).mpr ⟨held, rfl⟩, rfl⟩
  have copies : counts.toList.map (·.2) = (counts.toList.map (·.1)).map values.count := by
    rw [List.map_map]
    exact List.map_congr_left fun held member => ((entry held.1 held.2).mp member).2.symm
  rw [copies, (keys.map _).sum_eq, List.sum_map_count_dedup_eq_length]

namespace Accumulator

variable {accumulator : Accumulator} {ledger : Ledger} {account : Account} {value : Value}

def size : Accumulator → Nat
  | .avg running => running.count
  | .sum running => running.count
  | .count live => live.size
  | .arrival order => order.toList.length
  | .ordered held => (held.counts.toList.map (·.2)).sum
  | .rescan held => held.values.length
  | .distinct live _ => live.size

theorem Holds.size_eq (holds : accumulator.Holds ledger) : accumulator.size = ledger.held.length := by
  cases accumulator with
  | avg running => exact (Sum.Keeps.live holds).size
  | sum running => exact (Sum.Keeps.live holds).size
  | count live => exact LiveValues.Holds.size holds
  | arrival order => exact congrArg List.length (ArrivalOrder.Holds.list holds)
  | ordered held => exact CopiesOf.sum_eq_length holds
  | rescan held => exact (RescanExtremum.Holds.perm holds).length_eq
  | distinct live inner => exact holds.elim

theorem Keeps.size_eq (keeps : accumulator.Keeps account) : accumulator.size = account.all.held.length := by
  cases keeps with
  | plain holds => exact holds.size_eq
  | distinct copies holds hasDistinct => exact copies.size

def AnswersAs (accumulator other : Accumulator) : Prop :=
  accumulator.current = other.current ∧
    ∀ value, (accumulator.incorporate value).result = (other.incorporate value).result ∧
      (accumulator.incorporate value).state.cell = (other.incorporate value).state.cell

theorem fresh_distinct (strategy : ExtremumStrategy) {kind : Aggregate} (hasDistinct : kind.distinct ≠ kind) :
    fresh strategy kind.distinct = .distinct {} (fresh strategy kind) := by
  cases kind with
  | avg => rfl
  | count => rfl
  | sum => rfl
  | _ => exact absurd rfl hasDistinct

theorem current_ordered {held : OrderedExtremum} (holds : CopiesOf held.counts []) :
    held.current = .error (.noValues held.extreme.aggregate) := by
  have none : held.best? = none := (OrderedExtremum.best?_eq holds).trans (Extreme.atEnd_nil _)
  unfold OrderedExtremum.current
  rw [none]

theorem current_rescan {held : RescanExtremum} (holds : held.Holds []) :
    held.current = .error (.noValues held.extreme.aggregate) := by
  have none : held.best = none := (RescanExtremum.Holds.best holds).trans (Extreme.atEnd_nil _)
  unfold RescanExtremum.current
  rw [none]

theorem current_freshExtremum (strategy : ExtremumStrategy) (extreme : Extreme) :
    (fresh strategy extreme.aggregate).current = .error (.noValues extreme.aggregate) := by
  cases strategy with
  | ordered => cases extreme <;> exact current_ordered CopiesOf.empty
  | rescan => cases extreme <;> rfl

theorem Holds.current_empty (holds : accumulator.Holds {}) (strategy : ExtremumStrategy) :
    accumulator.current = (fresh strategy accumulator.aggregate).current := by
  cases accumulator with
  | avg running => exact Sum.Keeps.average holds
  | sum running => exact Sum.Keeps.current holds
  | count live =>
    change Except.ok (Value.int (Int64.ofNat live.size)) = _
    rw [LiveValues.Holds.size holds]
    rfl
  | arrival order =>
    have new := (ArrivalOrder.holds_empty order.wanted).current
    refine (ArrivalOrder.Holds.current holds).trans (new.symm.trans ?_)
    change (arrival { wanted := order.wanted }).current = (fresh strategy order.wanted.aggregate).current
    cases order.wanted <;> rfl
  | ordered held => exact (current_ordered holds).trans (current_freshExtremum strategy held.extreme).symm
  | rescan held => exact (current_rescan holds).trans (current_freshExtremum strategy held.extreme).symm
  | distinct live inner => exact holds.elim

theorem Keeps.current_empty (keeps : accumulator.Keeps {}) (strategy : ExtremumStrategy) :
    accumulator.current = (fresh strategy accumulator.aggregate).current := by
  cases keeps with
  | plain holds => exact holds.current_empty strategy
  | @distinct live inner _ copies holds hasDistinct =>
    refine (holds.current_empty strategy).trans ?_
    change _ = (fresh strategy inner.aggregate.distinct).current
    rw [fresh_distinct strategy hasDistinct]
    rfl

theorem Holds.checkIncorporate_empty (holds : accumulator.Holds {}) (strategy : ExtremumStrategy) (value : Value) :
    accumulator.checkIncorporate value = (fresh strategy accumulator.aggregate).checkIncorporate value := by
  have ofSum {running : Sum} (keeps : running.Keeps {}) : running.checkIncorporate value = Sum.checkIncorporate {} value := by
    have zero : running.integers = 0 := Int64.toInt_inj.mp keeps.integers
    unfold Sum.checkIncorporate
    rw [zero]
  cases accumulator with
  | avg running => exact ofSum holds
  | sum running => exact ofSum holds
  | count live => rfl
  | arrival order =>
    change _ = (fresh strategy order.wanted.aggregate).checkIncorporate value
    cases order.wanted <;> rfl
  | ordered held =>
    change _ = (fresh strategy held.extreme.aggregate).checkIncorporate value
    cases held.extreme <;> cases strategy <;> rfl
  | rescan held =>
    change _ = (fresh strategy held.extreme.aggregate).checkIncorporate value
    cases held.extreme <;> cases strategy <;> rfl
  | distinct live inner => exact holds.elim

theorem Keeps.checkIncorporate_empty (keeps : accumulator.Keeps {}) (strategy : ExtremumStrategy) (value : Value) :
    accumulator.checkIncorporate value = (fresh strategy accumulator.aggregate).checkIncorporate value := by
  cases keeps with
  | plain holds => exact holds.checkIncorporate_empty strategy value
  | @distinct live inner _ copies holds hasDistinct =>
    have absent : live.multiplicity value = 0 := (copies.multiplicity_eq_zero_iff value).mpr (by simp)
    change _ = (fresh strategy inner.aggregate.distinct).checkIncorporate value
    rw [fresh_distinct strategy hasDistinct]
    unfold checkIncorporate
    rw [if_pos absent]
    exact holds.checkIncorporate_empty strategy value

theorem Keeps.cell_eq {other : Accumulator} (keeps : accumulator.Keeps account) (otherKeeps : other.Keeps account)
    (sound : account.Sound) (aggregate : accumulator.aggregate = other.aggregate) : accumulator.cell = other.cell := by
  obtain ⟨value, cell, recomputed⟩ := keeps.cell sound
  obtain ⟨otherValue, otherCell, otherRecomputed⟩ := otherKeeps.cell sound
  rw [aggregate, otherRecomputed] at recomputed
  rw [cell, otherCell, Option.some.inj recomputed]

theorem Keeps.answersAs_fresh (keeps : accumulator.Keeps {}) (strategy : ExtremumStrategy) :
    accumulator.AnswersAs (fresh strategy accumulator.aggregate) := by
  have new := keeps_fresh strategy accumulator.aggregate
  have same : accumulator.aggregate = (fresh strategy accumulator.aggregate).aggregate :=
    (aggregate_fresh strategy accumulator.aggregate).symm
  refine ⟨keeps.current_empty strategy, ?_⟩
  intro value
  have check := keeps.checkIncorporate_empty strategy value
  refine ⟨by rw [(incorporate_follows _ _).result, (incorporate_follows _ _).result, check], ?_⟩
  cases accepted : accumulator.checkIncorporate value with
  | ok =>
    refine (keeps.incorporate accepted).cell_eq (new.incorporate (check ▸ accepted)) (Account.sound_empty.take _) ?_
    rw [aggregate_incorporate, aggregate_incorporate]
    exact same
  | error cause =>
    rw [(incorporate_follows _ _).unchanged _ accepted, (incorporate_follows _ _).unchanged _ (check ▸ accepted)]
    exact keeps.cell_eq new Account.sound_empty same

end Accumulator

namespace GroupSpec

variable {spec : GroupSpec} {key : List Value} {column : GroupColumn}

def nulls (spec : GroupSpec) (key : List Value) (column : GroupColumn) (kind : EventKind) (records : List Record) : Nat :=
  records.countP fun record =>
    spec.keyOf? record = some key ∧ record.kind = kind ∧ column.fed? record = some .null

theorem isNull_iff {value : Value} : value.isNull = true ↔ value = .null := by cases value <;> simp [Value.isNull]

-- A record of a group feeds a column a value or NULL.
theorem tally_eq (spec : GroupSpec) (key : List Value) {records : List Record}
    (fed : ∀ record ∈ records, column.fed? record ≠ none) (kind : EventKind) :
    spec.tally key kind records =
      (Accumulator.valuesOf kind (spec.changes key column records)).length + spec.nulls key column kind records := by
  induction records with
  | nil => rfl
  | cons record records ih =>
    have rest := ih fun earlier member => fed earlier (List.mem_cons_of_mem _ member)
    obtain ⟨value, found⟩ := Option.ne_none_iff_exists'.mp (fed record List.mem_cons_self)
    unfold tally nulls changes at *
    rw [List.countP_cons, List.countP_cons, List.filterMap_cons, rest]
    by_cases keyed : spec.keyOf? record = some key
    · by_cases null : value.isNull = true
      · rw [changeOf?_of_null found null]
        simp only [keyed, found, isNull_iff.mp null, and_true, true_and]
        omega
      · rw [changeOf?_of_value keyed found null]
        have notNull : value ≠ .null := fun same => null (isNull_iff.mpr same)
        unfold Accumulator.valuesOf
        rw [List.filterMap_cons]
        by_cases sameKind : record.kind = kind
        · simp only [keyed, found, sameKind, Option.some.injEq, notNull, and_false, and_true, decide_true,
            decide_false, if_true, Bool.false_eq_true, if_false, List.length_cons]
          omega
        · simp only [keyed, found, sameKind, false_and, and_false, decide_false, Bool.false_eq_true, if_false]
          omega
    · rw [changeOf?_of_ne keyed]
      simp only [keyed, false_and, decide_false, Bool.false_eq_true, if_false]
      omega

end GroupSpec

namespace GroupTable

variable {spec : GroupSpec} {records : List Record} {table : GroupTable} {slot : Nat} {group : Group}

-- A group counts every record and an accumulator takes no NULL, so the two differ by the NULLs that have come and
-- gone. Where no more have gone than came, a group without live records has nothing left in it.
theorem live_values_balance (accepted : GroupTable.applyAll spec {} records = .ok table)
    (stands : table.groups[slot]? = some group) :
    List.Forall₂ (fun column accumulator =>
        accumulator.size + spec.nulls group.key column .insert records =
          group.live + spec.nulls group.key column .retract records ∧
        (spec.nulls group.key column .retract records ≤ spec.nulls group.key column .insert records →
          accumulator.size ≤ group.live ∧
            (group.live = 0 → accumulator.AnswersAs (.fresh spec.strategy column.aggregate))))
      spec.columns group.accumulators := by
  have keeps := (keeps_empty spec).applyAll accepted
  rw [List.nil_append] at keeps
  have groupKeeps := keeps.groups slot group stands
  have live := groupKeeps.live
  have fed (column : GroupColumn) (member : column ∈ spec.columns) : ∀ record ∈ records, column.fed? record ≠ none :=
    fun record seen => keeps.fed record seen column member
  have inside := (List.forall₂_and_left _ _).mpr ⟨fed, groupKeeps.columns⟩
  refine inside.imp ?_
  intro column accumulator facts
  obtain ⟨fed, aggregate, tracks⟩ := facts
  have size := tracks.keeps.size_eq
  have balance := tracks.balance.length_eq
  have inserted := spec.tally_eq group.key fed .insert
  have retracted := spec.tally_eq group.key fed .retract
  rw [List.length_append] at balance
  have whole : accumulator.size + spec.nulls group.key column .insert records =
      group.live + spec.nulls group.key column .retract records := by omega
  refine ⟨whole, fun notMore => ⟨by omega, fun dead => ?_⟩⟩
  have nothing : (spec.account group.key column records).all.held = [] := by
    rw [← List.length_eq_zero_iff]
    change (Account.ofChanges _).all.held.length = 0
    omega
  have empty : spec.account group.key column records = {} := (Account.sound_ofChanges _).eq_empty nothing
  rw [← aggregate]
  exact Accumulator.Keeps.answersAs_fresh (empty ▸ tracks.keeps) spec.strategy

def countByKey : GroupSpec := .byField "k" [⟨"v", .count, "count"⟩] .changelog .ordered

theorem live_values_balance_emptied :
    ∃ table group, applyAll countByKey {}
        [⟨[("k", .text "a"), ("v", .int 5)], .insert⟩, ⟨[("k", .text "a"), ("v", .int 5)], .retract⟩] = .ok table ∧
      table.groups[0]? = some group ∧ group.live = 0 ∧
      List.Forall₂ (fun column accumulator =>
        accumulator.size = 0 ∧ accumulator.AnswersAs (.fresh countByKey.strategy column.aggregate))
        countByKey.columns group.accumulators := by
  refine ⟨_, _, rfl, rfl, rfl, ?_⟩
  have balance := @live_values_balance countByKey
    [⟨[("k", .text "a"), ("v", .int 5)], .insert⟩, ⟨[("k", .text "a"), ("v", .int 5)], .retract⟩] _ 0 _ rfl rfl
  cases balance with
  | cons first rest =>
    obtain ⟨none, fresh⟩ := first.2 (by decide)
    cases rest
    exact .cons ⟨Nat.le_zero.mp none, fresh rfl⟩ .nil

-- A NULL that goes takes a record away and no value, so the value stays when the last record has gone.
theorem null_retraction_leaves_value :
    ∃ table group, applyAll countByKey {}
        [⟨[("k", .text "a"), ("v", .int 5)], .insert⟩, ⟨[("k", .text "a"), ("v", .null)], .retract⟩] = .ok table ∧
      table.groups[0]? = some group ∧ group.live = 0 ∧ group.accumulators.map (·.size) = [1] ∧
      group.accumulators.map (·.cell) = [.ok (.int 1)] ∧
      (Accumulator.fresh countByKey.strategy .count).cell = .ok (.int 0) :=
  ⟨_, _, rfl, rfl, rfl, rfl, rfl, rfl⟩

end GroupTable

end DeltaQuery
