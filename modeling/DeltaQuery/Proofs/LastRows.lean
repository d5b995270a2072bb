import DeltaQuery.Proofs.Changelog

namespace DeltaQuery

namespace GroupSpec

variable {spec : GroupSpec} {key : List Value} {seen rows : List Record} {record row : Record}

def keysSeen (spec : GroupSpec) (records : List Record) : List (List Value) := (records.filterMap spec.keyOf?).eraseDups

-- The keys that were inserted more often than they were retracted, each at the place where it was first seen.
def liveKeys (spec : GroupSpec) (records : List Record) : List (List Value) :=
  (spec.keysSeen records).filter fun key => spec.tally key .retract records < spec.tally key .insert records

def lastRow? (spec : GroupSpec) (key : List Value) (rows : List Record) : Option Record :=
  (rows.filter fun row => row.values.take spec.key.length = key).getLast?

theorem keysSeen_append (keyed : spec.keyOf? record = some key) :
    spec.keysSeen (seen ++ [record]) =
      if key ∈ spec.keysSeen seen then spec.keysSeen seen else spec.keysSeen seen ++ [key] := by
  unfold keysSeen
  simp only [List.filterMap_append, List.filterMap_cons, keyed, List.filterMap_nil, List.eraseDups_append,
    List.mem_eraseDups]
  generalize seen.filterMap spec.keyOf? = keys
  by_cases before : key ∈ keys <;> simp [before, List.removeAll, List.eraseDups_cons]

theorem lastRow?_append_self (own : row.values.take spec.key.length = key) :
    spec.lastRow? key (rows ++ [row]) = some row := by
  simp [lastRow?, own]

theorem lastRow?_append_other (other : row.values.take spec.key.length ≠ key) :
    spec.lastRow? key (rows ++ [row]) = spec.lastRow? key rows := by
  simp [lastRow?, other]

end GroupSpec

theorem Group.Keeps.take_row {spec : GroupSpec} {group : Group} {seen : List Record} {kind : EventKind} {row : Record}
    (keeps : group.Keeps spec seen) (keyed : group.key.length = spec.key.length) (built : group.row spec kind = .ok row) :
    row.values.take spec.key.length = group.key := by
  obtain ⟨again, cells, rebuilt, _, _, values, _⟩ := keeps.row keyed kind
  cases rebuilt.symm.trans built
  rw [values, ← keyed, List.take_left]

theorem Group.row_withKind {spec : GroupSpec} {group : Group} {kind : EventKind} {row : Record}
    (built : group.row spec kind = .ok row) (other : EventKind) : group.row spec other = .ok { row with kind := other } := by
  unfold Group.row at built ⊢
  cases cells : cellsOf group.accumulators with
  | error failure =>
    rw [cells] at built
    cases built
  | ok cells =>
    rw [cells] at built
    cases built
    rfl

namespace GroupTable

variable {table : GroupTable} {spec : GroupSpec} {seen rows : List Record} {record : Record} {group : Group}

def keys (table : GroupTable) : List (List Value) := table.groups.toList.map (·.key)

theorem Indexed.mem_keys (indexed : table.Indexed) {key : List Value} : key ∈ table.keys ↔ table.index[key]? ≠ none := by
  unfold keys
  rw [List.mem_map, Option.ne_none_iff_exists']
  constructor
  · rintro ⟨group, member, keyed⟩
    obtain ⟨slot, inside, stands⟩ := List.getElem_of_mem member
    refine ⟨slot, (indexed.leads key slot).mpr ⟨group, ?_, keyed⟩⟩
    rw [← Array.getElem?_toList, List.getElem?_eq_getElem inside, stands]
  · rintro ⟨slot, entry⟩
    obtain ⟨group, stands, keyed⟩ := (indexed.leads key slot).mp entry
    rw [← Array.getElem?_toList] at stands
    exact ⟨group, List.mem_of_getElem? stands, keyed⟩

theorem Indexed.nodup_keys (indexed : table.Indexed) : table.keys.Nodup := by
  rw [List.nodup_iff_getElem?_ne_getElem?]
  intro one other before inside same
  have place (slot : Nat) (inside : slot < table.keys.length) : table.index[table.keys[slot]]? = some slot := by
    have standing : slot < table.groups.size := by simpa [keys] using inside
    exact (indexed.leads _ slot).mpr ⟨table.groups[slot], by simp, by simp [keys]⟩
  have first := place one (before.trans inside)
  rw [List.getElem?_eq_getElem inside, List.getElem?_eq_getElem (before.trans inside), Option.some.injEq] at same
  rw [same, place other inside] at first
  exact absurd (Option.some.inj first) (Nat.ne_of_gt before)

theorem Indexed.keys_apply (indexed : table.Indexed) (accepted : (table.apply spec record).result = .ok group) :
    (table.apply spec record).state.keys = if group.key ∈ table.keys then table.keys else table.keys ++ [group.key] := by
  obtain ⟨values, _, _, accepts⟩ := indexed.accepts accepted
  generalize (table.apply spec record).state = later at accepts
  cases accepts with
  | @changed slot before stands sameKey update =>
    rw [← Array.getElem?_toList] at stands
    have member : group.key ∈ table.keys := List.mem_map.mpr ⟨before, List.mem_of_getElem? stands, sameKey⟩
    have same : table.keys[slot]? = some group.key := by simp [keys, stands, sameKey]
    obtain ⟨inside, itself⟩ := List.getElem?_eq_some_iff.mp same
    rw [if_pos member]
    change (table.groups.setIfInBounds slot group).toList.map (·.key) = table.keys
    rw [Array.toList_setIfInBounds, List.map_set, ← itself]
    exact List.set_getElem_self inside
  | entered absent insertion update =>
    have unseen : group.key ∉ table.keys := fun member => indexed.mem_keys.mp member absent
    rw [if_neg unseen]
    simp [keys, GroupTable.enter]

theorem Indexed.mem_apply (indexed : table.Indexed) (accepted : (table.apply spec record).result = .ok group)
    {either : Group} (member : either ∈ (table.apply spec record).state.groups.toList) :
    either = group ∨ either ∈ table.groups.toList ∧ either.key ≠ group.key := by
  obtain ⟨place, stands⟩ := List.getElem?_of_mem member
  rw [Array.getElem?_toList] at stands
  have old {place : Nat} (stands : table.groups[place]? = some either) : either ∈ table.groups.toList :=
    List.mem_of_getElem? (Array.getElem?_toList.trans stands)
  obtain ⟨values, _, _, accepts⟩ := indexed.accepts accepted
  generalize (table.apply spec record).state = later at accepts stands
  cases accepts with
  | @changed slot before stood keyed update =>
    change (table.groups.setIfInBounds slot group)[place]? = some either at stands
    rw [Array.getElem?_setIfInBounds] at stands
    by_cases same : slot = place
    · rw [if_pos same, if_pos (Array.getElem?_eq_some_iff.mp stood).1] at stands
      exact .inl (Option.some.inj stands).symm
    · rw [if_neg same] at stands
      refine .inr ⟨old stands, fun sameKey => same ?_⟩
      have here := (indexed.leads group.key slot).mpr ⟨before, stood, keyed⟩
      have there := (indexed.leads group.key place).mpr ⟨either, stands, sameKey⟩
      exact Option.some.inj (here.symm.trans there)
  | entered absent insertion update =>
    change (table.groups.push group)[place]? = some either at stands
    rw [Array.getElem?_push] at stands
    split at stands
    · exact .inl (Option.some.inj stands).symm
    · refine .inr ⟨old stands, fun sameKey => ?_⟩
      have there := (indexed.leads group.key place).mpr ⟨either, stands, sameKey⟩
      cases absent.symm.trans there

-- The row that a group makes is the last one of its key, but for the kind.
def Shown (spec : GroupSpec) (rows : List Record) (group : Group) : Prop :=
  ∃ row, spec.lastRow? group.key rows = some row ∧ group.row spec .insert = .ok { row with kind := .insert }

-- A record gives a row for its own key only, so the last rows of the others stay.
structure Shows (table : GroupTable) (spec : GroupSpec) (seen rows : List Record) : Prop where
  keeps : table.Keeps spec seen
  keys : table.keys = spec.keysSeen seen
  shown : ∀ group ∈ table.groups.toList, Shown spec rows group

theorem shows_empty (spec : GroupSpec) : Shows {} spec [] [] :=
  ⟨keeps_empty spec, rfl, fun _ member => nomatch member⟩

theorem Shows.apply (shows : table.Shows spec seen rows) (accepted : (table.apply spec record).result = .ok group)
    {row : Record} (built : group.row spec record.kind = .ok row) :
    (table.apply spec record).state.Shows spec (seen ++ [record]) (rows ++ [row]) := by
  obtain ⟨keeps, groupKeeps, keyed⟩ := shows.keeps.apply accepted
  have width := Formula.length_of_evaluateEach (GroupSpec.keyOf?_eq_some.mp keyed)
  have own := groupKeeps.take_row width built
  refine ⟨keeps, ?_, ?_⟩
  · rw [shows.keeps.indexed.keys_apply accepted, shows.keys, GroupSpec.keysSeen_append keyed]
  · intro either member
    rcases shows.keeps.indexed.mem_apply accepted member with rfl | ⟨old, other⟩
    · exact ⟨row, GroupSpec.lastRow?_append_self own, Group.row_withKind built .insert⟩
    · obtain ⟨last, found, made⟩ := shows.shown either old
      exact ⟨last, (GroupSpec.lastRow?_append_other (own ▸ other.symm)).trans found, made⟩

theorem rows_of_shown {groups : List Group} (shown : ∀ group ∈ groups, Shown spec rows group) :
    ∃ made, List.Forall₂ (fun group row => group.row spec .insert = .ok row) groups made ∧
      made.map some = (groups.map (·.key)).map fun key =>
        (spec.lastRow? key rows).map fun row => { row with kind := .insert } := by
  induction groups with
  | nil => exact ⟨[], .nil, rfl⟩
  | cons group groups ih =>
    obtain ⟨row, found, built⟩ := shown group List.mem_cons_self
    obtain ⟨made, others, last⟩ := ih fun other member => shown other (List.mem_cons_of_mem _ member)
    refine ⟨{ row with kind := .insert } :: made, .cons built others, ?_⟩
    simp only [List.map_cons, found, Option.map_some, last]

theorem Shows.keys_liveGroups (shows : table.Shows spec seen rows) :
    (table.liveGroups 0).map (·.key) = spec.liveKeys seen := by
  unfold GroupSpec.liveKeys liveGroups
  rw [← shows.keys, GroupTable.keys, List.filter_map, List.drop_zero]
  refine congrArg (List.map Group.key) (List.filter_congr ?_)
  intro group member
  obtain ⟨slot, stands⟩ := List.getElem?_of_mem member
  rw [Array.getElem?_toList] at stands
  have live := (shows.keeps.groups slot group stands).live
  simp only [Function.comp_apply, decide_eq_decide]
  omega

-- The live groups are those of the live keys, and make their last rows.
theorem Shows.liveRows (shows : table.Shows spec seen rows) :
    ∃ made, List.Forall₂ (fun group row => group.row spec .insert = .ok row) (table.liveGroups 0) made ∧
      made.map some = (spec.liveKeys seen).map fun key =>
        (spec.lastRow? key rows).map fun row => { row with kind := .insert } := by
  rw [← shows.keys_liveGroups]
  refine rows_of_shown ?_
  intro group member
  exact shows.shown group (List.mem_filter.mp member).1

end GroupTable

end DeltaQuery
