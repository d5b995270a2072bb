import DeltaQuery.Proofs.Column
import DeltaQuery.Proofs.Update
import Mathlib.Data.List.Forall2

namespace DeltaQuery

namespace GroupSpec

variable {spec : GroupSpec} {key : List Value} {column : GroupColumn} {record : Record}

def byField (name : String) (columns : List GroupColumn) (emitMode : EmitMode) (strategy : ExtremumStrategy) :
    GroupSpec :=
  { keyNames := [name], key := [.variable name], columns, emitMode, strategy, aligned := rfl }

def keyOf? (spec : GroupSpec) (record : Record) : Option (List Value) := (spec.evaluateKey record).toOption

def changeOf? (spec : GroupSpec) (key : List Value) (column : GroupColumn) (record : Record) : Option Change :=
  if spec.keyOf? record = some key then
    match column.fed? record with
    | some value => if value.isNull then none else some (record.kind, value)
    | none => none
  else none

def changes (spec : GroupSpec) (key : List Value) (column : GroupColumn) (records : List Record) : List Change :=
  records.filterMap (spec.changeOf? key column)

def account (spec : GroupSpec) (key : List Value) (column : GroupColumn) (records : List Record) : Account :=
  .ofChanges (spec.changes key column records)

def tally (spec : GroupSpec) (key : List Value) (kind : EventKind) (records : List Record) : Nat :=
  records.countP fun record => spec.keyOf? record = some key ∧ record.kind = kind

theorem keyOf?_eq_some : spec.keyOf? record = some key ↔ spec.evaluateKey record = .ok key := by
  unfold keyOf?
  cases spec.evaluateKey record <;> simp [Except.toOption]

theorem fieldsFrom_ok {index : Nat} {columns : List GroupColumn} {values : List Value}
    (evaluated : fieldsFrom record index columns = .ok values) :
    List.Forall₂ (fun column value => column.fed? record = some value) columns values := by
  induction columns generalizing index values with
  | nil =>
    cases evaluated
    exact .nil
  | cons column columns ih =>
    unfold fieldsFrom at evaluated
    split at evaluated
    · cases evaluated
    · rename_i value fed
      cases rest : fieldsFrom record (index + 1) columns with
      | error failure =>
        rw [rest] at evaluated
        cases evaluated
      | ok values =>
        rw [rest] at evaluated
        cases evaluated
        exact .cons fed (ih rest)

theorem changes_append (records : List Record) (record : Record) :
    spec.changes key column (records ++ [record]) =
      spec.changes key column records ++ (spec.changeOf? key column record).toList := by
  unfold changes
  rw [List.filterMap_append]
  cases change : spec.changeOf? key column record <;> simp [change]

theorem changeOf?_of_ne (other : spec.keyOf? record ≠ some key) : spec.changeOf? key column record = none :=
  if_neg other

theorem changeOf?_of_null {value : Value} (fed : column.fed? record = some value) (null : value.isNull = true) :
    spec.changeOf? key column record = none := by
  unfold changeOf?
  rw [fed]
  dsimp only
  rw [if_pos null]
  split <;> rfl

theorem changeOf?_of_value {value : Value} (keyed : spec.keyOf? record = some key)
    (fed : column.fed? record = some value) (notNull : ¬ value.isNull = true) :
    spec.changeOf? key column record = some (record.kind, value) := by
  unfold changeOf?
  rw [if_pos keyed, fed]
  exact if_neg notNull

theorem tally_append (records : List Record) (record : Record) (kind : EventKind) :
    spec.tally key kind (records ++ [record]) =
      spec.tally key kind records + if spec.keyOf? record = some key ∧ record.kind = kind then 1 else 0 := by
  unfold tally
  rw [List.countP_append, List.countP_singleton]
  simp only [decide_eq_true_eq]

end GroupSpec

namespace Accumulator

variable {accumulator : Accumulator} {changes : List Change} {kind : EventKind} {value : Value}

def valuesOf (kind : EventKind) (changes : List Change) : List Value :=
  changes.filterMap fun change => if change.1 = kind then some change.2 else none

-- Whatever left was there: what is held, with what has left, is what arrived.
structure Tracks (accumulator : Accumulator) (changes : List Change) : Prop where
  keeps : accumulator.Keeps (.ofChanges changes)
  balance : ((Account.ofChanges changes).all.held ++ valuesOf .retract changes).Perm (valuesOf .insert changes)

theorem tracks_fresh (strategy : ExtremumStrategy) (aggregate : Aggregate) : (fresh strategy aggregate).Tracks [] :=
  ⟨keeps_fresh strategy aggregate, .nil⟩

theorem Tracks.incorporate (tracks : accumulator.Tracks changes) (accepted : accumulator.checkIncorporate value = .ok ()) :
    (accumulator.incorporate value).state.Tracks (changes ++ [(.insert, value)]) := by
  refine ⟨?_, ?_⟩
  · rw [Account.ofChanges_append]
    exact tracks.keeps.incorporate accepted
  · rw [Account.ofChanges_append]
    have before := tracks.balance.append_right [value]
    have left : valuesOf .retract (changes ++ [(.insert, value)]) = valuesOf .retract changes := by simp [valuesOf]
    have arrived : valuesOf .insert (changes ++ [(.insert, value)]) = valuesOf .insert changes ++ [value] := by
      simp [valuesOf]
    rw [left, arrived]
    refine List.Perm.trans ?_ before
    change ((Account.ofChanges changes).all.held ++ [value] ++ _).Perm _
    rw [List.append_assoc, List.append_assoc]
    exact List.perm_append_comm.append_left _

theorem Tracks.undo (tracks : accumulator.Tracks changes) (accepted : accumulator.checkUndo value = .ok ()) :
    (accumulator.undo value).state.Tracks (changes ++ [(.retract, value)]) := by
  obtain ⟨held, keeps⟩ := tracks.keeps.undo accepted
  refine ⟨?_, ?_⟩
  · rw [Account.ofChanges_append]
    exact keeps
  · rw [Account.ofChanges_append]
    have left : valuesOf .retract (changes ++ [(.retract, value)]) = valuesOf .retract changes ++ [value] := by
      simp [valuesOf]
    have arrived : valuesOf .insert (changes ++ [(.retract, value)]) = valuesOf .insert changes := by simp [valuesOf]
    rw [left, arrived]
    refine List.Perm.trans ?_ tracks.balance
    change ((Account.ofChanges changes).all.held.erase value ++ (valuesOf .retract changes ++ [value])).Perm _
    rw [← List.append_assoc]
    refine (List.perm_append_singleton value _).trans ?_
    rw [← List.cons_append]
    exact (List.perm_cons_erase held).symm.append_right _

theorem Tracks.change {spec : GroupSpec} {key : List Value} {column : GroupColumn} {records : List Record}
    {record : Record} (tracks : accumulator.Tracks (spec.changes key column records))
    (keyed : spec.keyOf? record = some key) (fed : column.fed? record = some value)
    (accepted : accumulator.check record.kind value = .ok ()) :
    (accumulator.change record.kind value).state.Tracks (spec.changes key column (records ++ [record])) := by
  rw [GroupSpec.changes_append]
  unfold check at accepted
  unfold Accumulator.change
  by_cases null : value.isNull = true
  · rw [if_pos null, GroupSpec.changeOf?_of_null fed null, Option.toList_none, List.append_nil]
    exact tracks
  · rw [if_neg null] at accepted ⊢
    rw [GroupSpec.changeOf?_of_value keyed fed null]
    cases kind : record.kind with
    | insert =>
      rw [kind] at accepted
      exact tracks.incorporate accepted
    | retract =>
      rw [kind] at accepted
      exact tracks.undo accepted

end Accumulator

namespace Group

variable {columns : List GroupColumn} {accumulators : List Accumulator} {values : List Value} {kind : EventKind}
variable {record : Record}

theorem changeFrom_forall₂ {before after : GroupColumn → Accumulator → Prop}
    (step : ∀ column accumulator value, before column accumulator → column.fed? record = some value →
      accumulator.check kind value = .ok () → after column (accumulator.change kind value).state)
    {index : Nat} (held : List.Forall₂ before columns accumulators)
    (fields : List.Forall₂ (fun column value => column.fed? record = some value) columns values)
    (checked : checkFrom kind index (columns.map (·.aggregate)) accumulators values = .ok ()) :
    List.Forall₂ after columns
      (changeFrom kind index (columns.map (·.aggregate)) accumulators values).state := by
  induction held generalizing index values with
  | nil =>
    cases fields
    exact .nil
  | @cons column accumulator columns accumulators first rest ih =>
    cases fields with
    | @cons _ value _ values fed fields =>
      rw [List.map_cons, checkFrom_cons] at checked
      rw [List.map_cons, changeFrom_cons]
      cases check : accumulator.check kind value with
      | error cause =>
        rw [check] at checked
        cases checked
      | ok =>
        rw [check] at checked
        exact .cons (step column accumulator value first fed check) (ih fields checked)

-- What the accumulators refuse, one of them refuses.
theorem checkFrom_error {before : GroupColumn → Accumulator → Prop} {index : Nat} {failure : Failure}
    (held : List.Forall₂ before columns accumulators)
    (fields : List.Forall₂ (fun column value => column.fed? record = some value) columns values)
    (refused : checkFrom kind index (columns.map (·.aggregate)) accumulators values = .error failure) :
    ∃ column accumulator value cause, column ∈ columns ∧ before column accumulator ∧ column.fed? record = some value ∧
      accumulator.check kind value = .error cause ∧ failure.kind = cause.kind := by
  induction held generalizing index values with
  | nil =>
    cases fields
    cases refused
  | @cons column accumulator columns accumulators first rest ih =>
    cases fields with
    | @cons _ value _ values fed fields =>
      rw [List.map_cons, checkFrom_cons] at refused
      cases check : accumulator.check kind value with
      | error cause =>
        rw [check] at refused
        cases refused
        exact ⟨column, accumulator, value, cause, List.mem_cons_self, first, fed, check, rfl⟩
      | ok =>
        rw [check] at refused
        obtain ⟨column, accumulator, value, cause, member, found⟩ := ih fields refused
        exact ⟨column, accumulator, value, cause, List.mem_cons_of_mem _ member, found⟩

end Group

namespace Group

variable {spec : GroupSpec} {group : Group} {seen : List Record} {record : Record} {values : List Value}

def ColumnKeeps (spec : GroupSpec) (key : List Value) (seen : List Record) (column : GroupColumn)
    (accumulator : Accumulator) : Prop :=
  accumulator.aggregate = column.aggregate ∧ accumulator.Tracks (spec.changes key column seen)

structure Keeps (group : Group) (spec : GroupSpec) (seen : List Record) : Prop where
  columns : List.Forall₂ (ColumnKeeps spec group.key seen) spec.columns group.accumulators
  live : group.live + spec.tally group.key .retract seen = spec.tally group.key .insert seen

theorem key_update (spec : GroupSpec) (group : Group) (kind : EventKind) (values : List Value) :
    (group.update spec kind values).state.key = group.key := by
  rcases update_cases spec group kind values with ⟨failure, update, why⟩ | ⟨alive, checked, update⟩ <;>
    · rw [update]
      rfl

theorem keeps_fresh {key : List Value} (unseen : ∀ record ∈ seen, spec.keyOf? record ≠ some key) :
    (fresh spec key).Keeps spec seen := by
  refine ⟨?_, ?_⟩
  · have nothing (column : GroupColumn) : spec.changes key column seen = [] :=
      List.filterMap_eq_nil_iff.mpr fun record member => GroupSpec.changeOf?_of_ne (unseen record member)
    change List.Forall₂ _ spec.columns (spec.aggregates.map (Accumulator.fresh spec.strategy))
    unfold GroupSpec.aggregates
    rw [List.map_map, List.forall₂_map_right_iff]
    refine List.forall₂_same.mpr fun column member => ⟨Accumulator.aggregate_fresh _ _, ?_⟩
    change Accumulator.Tracks _ (spec.changes key column seen)
    rw [nothing]
    exact Accumulator.tracks_fresh spec.strategy column.aggregate
  · have nobody (kind : EventKind) : spec.tally key kind seen = 0 := by
      refine List.countP_eq_zero.mpr ?_
      intro record member
      simp [unseen record member]
    change 0 + spec.tally key .retract seen = spec.tally key .insert seen
    rw [nobody, nobody]

theorem Keeps.other (keeps : group.Keeps spec seen) (other : spec.keyOf? record ≠ some group.key) :
    group.Keeps spec (seen ++ [record]) := by
  refine ⟨keeps.columns.imp fun column accumulator held => ?_, ?_⟩
  · unfold ColumnKeeps
    rw [GroupSpec.changes_append, GroupSpec.changeOf?_of_ne other, Option.toList_none, List.append_nil]
    exact held
  · rw [GroupSpec.tally_append, GroupSpec.tally_append]
    simpa [other] using keeps.live

theorem Keeps.update (keeps : group.Keeps spec seen) (keyed : spec.keyOf? record = some group.key)
    (fields : List.Forall₂ (fun column value => column.fed? record = some value) spec.columns values)
    (accepted : (group.update spec record.kind values).result = .ok ()) :
    (group.update spec record.kind values).state.Keeps spec (seen ++ [record]) := by
  rcases update_cases spec group record.kind values with ⟨failure, update, why⟩ | ⟨alive, checked, update⟩
  · rw [update] at accepted
    cases accepted
  · rw [update]
    refine ⟨?_, ?_⟩
    · refine changeFrom_forall₂ ?_ keeps.columns fields checked
      rintro column accumulator value ⟨aggregate, tracks⟩ fed check
      exact ⟨(accumulator.aggregate_change record.kind value).trans aggregate, tracks.change keyed fed check⟩
    · have live := keeps.live
      change liveAfter group.live record.kind + spec.tally group.key .retract (seen ++ [record]) =
        spec.tally group.key .insert (seen ++ [record])
      rw [GroupSpec.tally_append, GroupSpec.tally_append]
      cases kind : record.kind with
      | insert =>
        simp only [liveAfter, keyed, true_and, reduceCtorEq, if_true, if_false]
        omega
      | retract =>
        have positive : group.live ≠ 0 := by simpa [kind, EventKind.isRetraction] using alive
        simp only [liveAfter, keyed, true_and, reduceCtorEq, if_true, if_false]
        omega

end Group

namespace GroupTable

variable {table : GroupTable} {spec : GroupSpec} {seen : List Record} {record : Record} {group after : Group}
variable {key : List Value} {slot : Nat}

-- The index leads to every group by its key, and to nothing else.
structure Indexed (table : GroupTable) : Prop where
  leads : ∀ key slot, table.index[key]? = some slot ↔
    ∃ group : Group, table.groups[slot]? = some group ∧ group.key = key

theorem indexed_empty : Indexed {} := ⟨by simp⟩

theorem Indexed.find?_eq_none (indexed : table.Indexed) : table.find? key = none ↔ table.index[key]? = none := by
  cases entry : table.index[key]? with
  | none => simp [find?, entry]
  | some slot =>
    obtain ⟨group, stands, _⟩ := (indexed.leads key slot).mp entry
    simp [find?_eq_some.mpr ⟨entry, stands⟩]

theorem Indexed.key_of_find? (indexed : table.Indexed) (found : table.find? key = some (slot, group)) :
    group.key = key := by
  obtain ⟨entry, stands⟩ := find?_eq_some.mp found
  obtain ⟨other, same, keyed⟩ := (indexed.leads key slot).mp entry
  rw [stands] at same
  cases same
  exact keyed

theorem Indexed.enter (indexed : table.Indexed) (absent : table.index[group.key]? = none) : (table.enter group).Indexed := by
  refine ⟨?_⟩
  intro key slot
  change (table.index.insert group.key table.groups.size)[key]? = some slot ↔
    ∃ other, (table.groups.push group)[slot]? = some other ∧ other.key = key
  rw [Std.TreeMap.getElem?_insert, Array.getElem?_push]
  by_cases same : group.key = key
  · subst same
    rw [if_pos Std.ReflCmp.compare_self]
    constructor
    · intro last
      cases last
      exact ⟨group, if_pos rfl, rfl⟩
    · rintro ⟨other, stands, keyed⟩
      split at stands
      · rename_i last
        rw [last]
      · have entry := (indexed.leads group.key slot).mpr ⟨other, stands, keyed⟩
        rw [absent] at entry
        cases entry
  · have apart : Value.compareItems group.key key ≠ .eq := fun equal => same (Std.LawfulEqCmp.eq_of_compare equal)
    rw [if_neg apart, indexed.leads key slot]
    constructor
    · rintro ⟨other, stands, keyed⟩
      have inBounds := (Array.getElem?_eq_some_iff.mp stands).1
      exact ⟨other, (if_neg (Nat.ne_of_lt inBounds)).trans stands, keyed⟩
    · rintro ⟨other, stands, keyed⟩
      split at stands
      · cases stands
        exact absurd keyed same
      · exact ⟨other, stands, keyed⟩

theorem Indexed.replace (indexed : table.Indexed) (stands : table.groups[slot]? = some group)
    (sameKey : after.key = group.key) : (table.replace slot after).Indexed := by
  refine ⟨?_⟩
  intro key other
  have inBounds := (Array.getElem?_eq_some_iff.mp stands).1
  change table.index[key]? = some other ↔
    ∃ found, (table.groups.setIfInBounds slot after)[other]? = some found ∧ found.key = key
  rw [indexed.leads, Array.getElem?_setIfInBounds]
  by_cases same : slot = other
  · subst same
    rw [if_pos rfl, if_pos inBounds, stands]
    simp [sameKey]
  · rw [if_neg same]

-- The ways in which a table accepts a record: its group takes the place of the one before it or, if there was none, the
-- last.
inductive Accepts (spec : GroupSpec) (table : GroupTable) (record : Record) (group : Group) (values : List Value) :
    GroupTable → Prop
  | changed {slot : Nat} {before : Group} (stands : table.groups[slot]? = some before) (sameKey : before.key = group.key)
      (update : before.update spec record.kind values = .done group ()) :
      Accepts spec table record group values (table.replace slot group)
  | entered (absent : table.index[group.key]? = none) (insertion : record.kind = .insert)
      (update : (Group.fresh spec group.key).update spec record.kind values = .done group ()) :
      Accepts spec table record group values (table.enter group)

theorem Indexed.accepts (indexed : table.Indexed) (accepted : (table.apply spec record).result = .ok group) :
    ∃ values, spec.evaluateKey record = .ok group.key ∧ spec.evaluateFields record = .ok values ∧
      table.Accepts spec record group values (table.apply spec record).state := by
  obtain ⟨key, values, evaluated, fields, routed⟩ := apply_ok accepted
  have cases_ := route_cases spec table key record.kind values
  rw [routed] at accepted ⊢
  generalize table.route spec key record.kind values = attempt at cases_ accepted
  cases cases_ with
  | unseen => cases accepted
  | refused => cases accepted
  | @changed slot before _ found update =>
    cases accepted
    have keyKept := before.key_update spec record.kind values
    rw [update] at keyKept
    have sameKey : group.key = before.key := keyKept
    obtain rfl := indexed.key_of_find? found
    exact ⟨values, sameKey ▸ evaluated, fields, .changed (find?_eq_some.mp found).2 sameKey.symm update⟩
  | entered absent insertion update =>
    cases accepted
    have keyKept := (Group.fresh spec key).key_update spec record.kind values
    rw [update] at keyKept
    obtain rfl : group.key = key := keyKept
    exact ⟨values, evaluated, fields, .entered (indexed.find?_eq_none.mp absent) insertion update⟩

-- A table after records: their groups and no others, and of each record a value for every column.
structure Keeps (table : GroupTable) (spec : GroupSpec) (seen : List Record) : Prop where
  indexed : table.Indexed
  groups : ∀ (slot : Nat) (group : Group), table.groups[slot]? = some group → group.Keeps spec seen
  known : ∀ key, table.index[key]? ≠ none ↔ ∃ record ∈ seen, spec.keyOf? record = some key
  fed : ∀ record ∈ seen, ∀ column ∈ spec.columns, column.fed? record ≠ none

theorem keeps_empty (spec : GroupSpec) : Keeps {} spec [] where
  indexed := indexed_empty
  groups := by simp
  known := by simp
  fed := by simp

theorem known_append {index : Option Nat} (before : index ≠ none ↔ ∃ record ∈ seen, spec.keyOf? record = some key) :
    (index ≠ none ∨ spec.keyOf? record = some key) ↔
      ∃ either ∈ seen ++ [record], spec.keyOf? either = some key := by
  rw [before]
  constructor
  · rintro (⟨earlier, member, keyed⟩ | keyed)
    · exact ⟨earlier, List.mem_append_left _ member, keyed⟩
    · exact ⟨record, List.mem_append_right _ (List.mem_singleton_self _), keyed⟩
  · rintro ⟨either, member, keyed⟩
    rcases List.mem_append.mp member with earlier | last
    · exact .inl ⟨either, earlier, keyed⟩
    · rw [List.mem_singleton.mp last] at keyed
      exact .inr keyed

theorem fed_append {values : List Value}
    (before : ∀ record ∈ seen, ∀ column ∈ spec.columns, column.fed? record ≠ none)
    (fields : List.Forall₂ (fun column value => column.fed? record = some value) spec.columns values) :
    ∀ either ∈ seen ++ [record], ∀ column ∈ spec.columns, column.fed? either ≠ none := by
  intro either member column inside
  rcases List.mem_append.mp member with earlier | last
  · exact before either earlier column inside
  · rw [List.mem_singleton.mp last]
    clear before
    revert inside
    generalize spec.columns = columns at fields
    intro inside
    induction fields with
    | nil => cases inside
    | cons fed rest ih =>
      rcases List.mem_cons.mp inside with rfl | later
      · rw [fed]
        exact Option.some_ne_none _
      · exact ih later

theorem Keeps.enter {values : List Value} (keeps : table.Keeps spec seen) (absent : table.index[after.key]? = none)
    (keyed : spec.keyOf? record = some after.key)
    (fields : List.Forall₂ (fun column value => column.fed? record = some value) spec.columns values)
    (new : after.Keeps spec (seen ++ [record])) : (table.enter after).Keeps spec (seen ++ [record]) where
  indexed := keeps.indexed.enter absent
  groups := by
    intro slot group stands
    change (table.groups.push after)[slot]? = some group at stands
    rw [Array.getElem?_push] at stands
    split at stands
    · cases stands
      exact new
    · refine (keeps.groups slot group stands).other ?_
      intro same
      have entry := (keeps.indexed.leads group.key slot).mpr ⟨group, stands, rfl⟩
      rw [keyed] at same
      rw [← Option.some.inj same, absent] at entry
      cases entry
  known := by
    intro key
    rw [← known_append (keeps.known key), keyed]
    change (table.index.insert after.key table.groups.size)[key]? ≠ none ↔ _
    rw [Std.TreeMap.getElem?_insert]
    by_cases same : after.key = key
    · simp [same, Std.ReflCmp.compare_self]
    · have apart : Value.compareItems after.key key ≠ .eq := fun equal => same (Std.LawfulEqCmp.eq_of_compare equal)
      simp [same, apart]
  fed := fed_append keeps.fed fields

theorem Keeps.replace {values : List Value} (keeps : table.Keeps spec seen) (stands : table.groups[slot]? = some group)
    (keyed : spec.keyOf? record = some group.key)
    (fields : List.Forall₂ (fun column value => column.fed? record = some value) spec.columns values)
    (sameKey : after.key = group.key) (new : after.Keeps spec (seen ++ [record])) :
    (table.replace slot after).Keeps spec (seen ++ [record]) where
  indexed := keeps.indexed.replace stands sameKey
  groups := by
    intro other found standsThere
    change (table.groups.setIfInBounds slot after)[other]? = some found at standsThere
    rw [Array.getElem?_setIfInBounds] at standsThere
    by_cases same : slot = other
    · rw [if_pos same, if_pos (Array.getElem?_eq_some_iff.mp stands).1] at standsThere
      cases standsThere
      exact new
    · rw [if_neg same] at standsThere
      refine (keeps.groups other found standsThere).other fun sameGroup => same ?_
      rw [keyed] at sameGroup
      have here := (keeps.indexed.leads group.key slot).mpr ⟨group, stands, rfl⟩
      have there := (keeps.indexed.leads found.key other).mpr ⟨found, standsThere, rfl⟩
      rw [← Option.some.inj sameGroup, here] at there
      exact Option.some.inj there
  known := by
    intro key
    rw [← known_append (keeps.known key), keyed]
    change table.index[key]? ≠ none ↔ _
    constructor
    · exact .inl
    · rintro (entry | same)
      · exact entry
      · cases same
        rw [(keeps.indexed.leads group.key slot).mpr ⟨group, stands, rfl⟩]
        exact Option.some_ne_none slot
  fed := fed_append keeps.fed fields

theorem Keeps.apply (keeps : table.Keeps spec seen) (accepted : (table.apply spec record).result = .ok group) :
    (table.apply spec record).state.Keeps spec (seen ++ [record]) ∧ group.Keeps spec (seen ++ [record]) ∧
      spec.keyOf? record = some group.key := by
  obtain ⟨values, evaluated, evaluatedFields, accepts⟩ := keeps.indexed.accepts accepted
  have keyed := GroupSpec.keyOf?_eq_some.mpr evaluated
  have fields := GroupSpec.fieldsFrom_ok evaluatedFields
  generalize (table.apply spec record).state = later at accepts ⊢
  cases accepts with
  | @changed slot before stands sameKey update =>
    have after := (keeps.groups slot before stands).update (sameKey ▸ keyed) fields (by rw [update]; rfl)
    rw [update] at after
    exact ⟨keeps.replace stands (sameKey ▸ keyed) fields sameKey.symm after, after, keyed⟩
  | entered absent insertion update =>
    have unseen : ∀ earlier ∈ seen, spec.keyOf? earlier ≠ some group.key := fun earlier member same =>
      (keeps.known group.key).mpr ⟨earlier, member, same⟩ absent
    have after := (Group.keeps_fresh unseen).update keyed fields (by rw [update]; rfl)
    rw [update] at after
    exact ⟨keeps.enter absent keyed fields after, after, keyed⟩

def applyAll (spec : GroupSpec) (table : GroupTable) : List Record → Except Failure GroupTable
  | [] => .ok table
  | record :: records =>
    match (table.apply spec record).result with
    | .error failure => .error failure
    | .ok _ => applyAll spec (table.apply spec record).state records

theorem applyAll_singleton (accepted : (table.apply spec record).result = .ok group) :
    table.applyAll spec [record] = .ok (table.apply spec record).state := by
  rw [applyAll, accepted]
  rfl

theorem applyAll_append {records more : List Record} {last : GroupTable}
    (applied : table.applyAll spec records = .ok last) :
    table.applyAll spec (records ++ more) = last.applyAll spec more := by
  induction records generalizing table with
  | nil =>
    cases applied
    rfl
  | cons record records ih =>
    rw [applyAll] at applied
    rw [List.cons_append, applyAll]
    cases step : (table.apply spec record).result with
    | error failure =>
      rw [step] at applied
      cases applied
    | ok group =>
      rw [step] at applied
      exact ih applied

-- What every accepted record keeps true of a table and the records before it.
theorem applyAll_induction {Holds : GroupTable → GroupSpec → List Record → Prop}
    (step : ∀ {table : GroupTable} {seen : List Record} {record : Record} {group : Group}, Holds table spec seen →
      (table.apply spec record).result = .ok group → Holds (table.apply spec record).state spec (seen ++ [record]))
    {records : List Record} {last : GroupTable} (holds : Holds table spec seen)
    (accepted : table.applyAll spec records = .ok last) : Holds last spec (seen ++ records) := by
  induction records generalizing table seen with
  | nil =>
    cases accepted
    rwa [List.append_nil]
  | cons record records ih =>
    rw [GroupTable.applyAll] at accepted
    cases result : (table.apply spec record).result with
    | error failure =>
      rw [result] at accepted
      cases accepted
    | ok group =>
      rw [result] at accepted
      have whole := ih (step holds result) accepted
      rwa [List.append_assoc, List.singleton_append] at whole

theorem Keeps.applyAll {records : List Record} {last : GroupTable} (keeps : table.Keeps spec seen)
    (accepted : table.applyAll spec records = .ok last) : last.Keeps spec (seen ++ records) :=
  applyAll_induction (fun keeps accepted => (keeps.apply accepted).1) keeps accepted

def liveGroups (table : GroupTable) (start : Nat) : List Group :=
  (table.groups.toList.drop start).filter (0 < ·.live)

theorem filter_of_findIdx? {α : Type} {p : α → Bool} {xs : List α} {i : Nat} (found : xs.findIdx? p = some i) :
    ∃ x, xs[i]? = some x ∧ xs.filter p = x :: (xs.drop (i + 1)).filter p := by
  induction xs generalizing i with
  | nil => cases found
  | cons x xs ih =>
    rw [List.findIdx?_cons] at found
    by_cases holds : p x = true
    · rw [if_pos holds] at found
      cases found
      exact ⟨x, rfl, List.filter_cons_of_pos holds⟩
    · rw [if_neg holds, Option.map_eq_some_iff] at found
      obtain ⟨j, later, rfl⟩ := found
      obtain ⟨y, there, rest⟩ := ih later
      exact ⟨y, there, (List.filter_cons_of_neg holds).trans rest⟩

theorem liveFrom?_cases (table : GroupTable) (start : Nat) :
    table.liveFrom? start = none ∧ table.liveGroups start = [] ∨
      ∃ slot group, table.liveFrom? start = some (slot, group) ∧ start ≤ slot ∧ slot < table.size ∧
        table.liveGroups start = group :: table.liveGroups (slot + 1) := by
  unfold liveFrom? liveGroups
  cases found : (table.groups.toList.drop start).findIdx? (0 < ·.live) with
  | none =>
    refine .inl ⟨rfl, List.filter_eq_nil_iff.mpr ?_⟩
    intro group member live
    rw [List.findIdx?_eq_none_iff.mp found group member] at live
    cases live
  | some offset =>
    obtain ⟨group, there, rest⟩ := filter_of_findIdx? found
    rw [List.getElem?_drop, Array.getElem?_toList] at there
    rw [List.drop_drop] at rest
    refine .inr ⟨start + offset, group, ?_, Nat.le_add_right start offset, (Array.getElem?_eq_some_iff.mp there).1, rest⟩
    simp [there]

end GroupTable

end DeltaQuery
