import DeltaQuery.Proofs.ArrayRuns
import DeltaQuery.Proofs.Changelog
import DeltaQuery.Proofs.WellFormed
import Mathlib.Data.List.Dedup

namespace DeltaQuery

namespace ByName

variable {α : Type} {entries : List (String × α)} {name : String}

theorem mem_names_sorted : name ∈ (sorted entries).map (·.1) ↔ name ∈ entries.map (·.1) := by
  rw [mem_names_iff_lookup, lookup_sorted, ← mem_names_iff_lookup, List.map_reverse, List.mem_reverse]

theorem Ascending.nodup (ascending : Ascending entries) : (entries.map (·.1)).Nodup :=
  List.pairwise_map.mpr (ascending.imp fun less => String.ne_of_lt less)

theorem length_sorted_iff : (sorted entries).length = entries.length ↔ (entries.map (·.1)).Nodup := by
  have same : ((sorted entries).map (·.1)).Perm (entries.map (·.1)).dedup := by
    refine (List.perm_ext_iff_of_nodup (ascending_sorted entries).nodup (List.nodup_dedup _)).mpr ?_
    intro name
    rw [mem_names_sorted, List.mem_dedup]
  have counted := same.length_eq
  rw [List.length_map] at counted
  rw [counted, ← List.dedup_eq_self, ← (List.dedup_sublist _).length_eq, List.length_map]

theorem lookup_reverse (once : (entries.map (·.1)).count name ≤ 1) : entries.reverse.lookup name = entries.lookup name := by
  induction entries with
  | nil => rfl
  | cons entry rest ih =>
    rw [List.map_cons, List.count_cons] at once
    rw [List.reverse_cons, List.lookup_append, lookup_cons]
    by_cases here : name = entry.1
    · rw [beq_iff_eq.mpr here.symm, if_pos rfl] at once
      have absent : name ∉ rest.reverse.map (·.1) := by
        rw [List.map_reverse, List.mem_reverse, ← List.count_eq_zero]
        omega
      rw [mem_names_iff_lookup, Bool.not_eq_true, Option.isSome_eq_false_iff, Option.isNone_iff_eq_none] at absent
      rw [absent, if_pos here, lookup_cons, if_pos here]
      rfl
    · rw [ih (by omega), lookup_cons, if_neg here, if_neg here, List.lookup_nil, Option.or_none]

end ByName

-- How an object stands to a record with these column names whose object it is.
structure Record.WrittenAs (record : Record) (names : List String) (members : List (String × Json)) : Prop where
  named : record.names = names
  object : record.toJson = .object members
  ascending : ByName.Ascending members
  -- The last column of a name is the one that is shown.
  last : ∀ name, members.lookup name = (record.columns.reverse.lookup name).map Value.toJson
  agrees : ∀ name, names.count name ≤ 1 → members.lookup name = (record.value? name).map Value.toJson
  whole : members.length = record.columns.length ↔ names.Nodup

theorem Record.lookup_members (columns : List (String × Value)) (name : String) :
    (members columns).lookup name = (columns.lookup name).map Value.toJson := by
  induction columns with
  | nil => rfl
  | cons column columns ih =>
    change ((column.1, column.2.toJson) :: members columns).lookup name = _
    rw [ByName.lookup_cons, ByName.lookup_cons, ih]
    split <;> rfl

theorem Record.writtenAs (record : Record) : record.WrittenAs record.names (members record.sortedColumns) := by
  have last (name : String) : (members record.sortedColumns).lookup name =
      (record.columns.reverse.lookup name).map Value.toJson := by
    rw [lookup_members, sortedColumns, ByName.lookup_sorted]
  refine ⟨rfl, record.toJson_eq, ?_, last, ?_, ?_⟩
  · rw [sortedColumns, ← sorted_members]
    exact ByName.ascending_sorted _
  · intro name once
    rw [last, ByName.lookup_reverse once]
    rfl
  · rw [members, List.length_map, sortedColumns, ByName.length_sorted_iff]
    rfl

theorem Projection.names_of_apply {projection : Projection} {record made : Record}
    (applied : projection.apply record = .ok made) : made.names = projection.names := by
  unfold apply at applied
  cases evaluated : Formula.evaluateEach .mapColumn record 0 projection.formulas with
  | error failure =>
    rw [evaluated] at applied
    cases applied
  | ok values =>
    rw [evaluated] at applied
    cases applied
    exact Record.names_ofLists (projection.aligned.symm.trans (Formula.length_of_evaluateEach evaluated).symm) _

theorem Group.Keeps.names_row {spec : GroupSpec} {group : Group} {seen : List Record} {kind : EventKind} {row : Record}
    (keeps : group.Keeps spec seen) (keyed : group.key.length = spec.key.length) (built : group.row spec kind = .ok row) :
    row.names = spec.rowNames := by
  obtain ⟨again, cells, rebuilt, _, names, _⟩ := keeps.row keyed kind
  cases rebuilt.symm.trans built
  exact names

namespace GroupTable

variable {table : GroupTable} {spec : GroupSpec} {seen : List Record} {slot : Nat} {group : Group}

theorem Keeps.keyed (keeps : table.Keeps spec seen) (stands : table.groups[slot]? = some group) :
    group.key.length = spec.key.length := by
  have entered : table.index[group.key]? = some slot := (keeps.indexed.leads group.key slot).mpr ⟨group, stands, rfl⟩
  obtain ⟨record, _, keyed⟩ := (keeps.known group.key).mp (by simp [entered])
  exact Formula.length_of_evaluateEach (GroupSpec.keyOf?_eq_some.mp keyed)

theorem stands_of_liveFrom? {start : Nat} (found : table.liveFrom? start = some (slot, group)) :
    table.groups[slot]? = some group := by
  unfold liveFrom? at found
  simp only [Option.bind_eq_bind, Option.bind_eq_some_iff, Option.some.injEq, Prod.mk.injEq] at found
  obtain ⟨offset, _, other, stands, rfl, rfl⟩ := found
  exact stands

end GroupTable

namespace Grouped

variable {σ : Type} {next : Pull σ} {grouped : Grouped σ} {cancelled : Bool} {seen : List Record} {row : Record}

theorem Drained.names {pulled : Pulled (Grouped σ)} (drained : Drained grouped cancelled pulled)
    (keeps : grouped.grouping.table.Keeps grouped.grouping.spec seen) (answered : pulled.answer = .ok (some row)) :
    row.names = grouped.grouping.spec.rowNames := by
  cases drained with
  | finished => cases answered
  | stopped calledOff => cases answered
  | row found built =>
    cases answered
    have stands := GroupTable.stands_of_liveFrom? found
    exact (keeps.groups _ _ stands).names_row (keeps.keyed stands) built

theorem Ending.names {pulled : Pulled (Grouped σ)} (ending : Ending next grouped cancelled pulled)
    (keeps : grouped.grouping.table.Keeps grouped.grouping.spec seen) (answered : pulled.answer = .ok (some row)) :
    row.names = grouped.grouping.spec.rowNames := by
  cases ending with
  | stopped calledOff => cases answered
  | failed below => cases answered
  | ended below =>
    have drained := drain_cases ((grouped.taken grouped.grouping.table (next grouped.source cancelled).stream).inPhase
      .draining) (next grouped.source cancelled).cancelled
    exact drained.names keeps answered
  | rejected below rejection => cases answered
  | @row record group below accepted changelog =>
    obtain ⟨built, made⟩ := group.row_exists grouped.grouping.spec record.kind
    rw [made] at answered
    cases answered
    obtain ⟨_, groupKeeps, keyed⟩ := keeps.apply accepted
    exact groupKeeps.names_row (Formula.length_of_evaluateEach (GroupSpec.keyOf?_eq_some.mp keyed)) made
  | endless below accepted final => cases answered

theorem names_of_pull {remaining : σ → Nat} (keeps : grouped.grouping.table.Keeps grouped.grouping.spec seen)
    (answered : (pull next remaining grouped cancelled).answer = .ok (some row)) :
    row.names = grouped.grouping.spec.rowNames := by
  have byPhase := pull_byPhase next remaining grouped cancelled
  generalize pull next remaining grouped cancelled = pulled at byPhase answered
  cases byPhase with
  | absorbing isOpen fuel =>
    obtain ⟨records, source, signal, table, gives, applied, ending⟩ := absorb_cases next fuel grouped cancelled
    exact ending.names (keeps.applyAll applied) answered
  | draining phase => exact (drain_cases grouped cancelled).names keeps answered
  | closed phase => cases answered
  | failed phase => cases answered

end Grouped

namespace Operator

-- A stage that makes rows of its own, under these names.
inductive Heads (names : List String) : Operator → Prop
  | map {projection : Projection} (source : Operator) (named : projection.names = names) : Heads names (.map projection source)
  | groupBy {grouping : Grouping} {seen : List Record} (source : Operator)
      (keeps : grouping.table.Keeps grouping.spec seen) (named : grouping.spec.rowNames = names) :
      Heads names (.groupBy grouping source)

variable {names : List String} {op : Operator} {cancelled : Bool} {made : Record}

theorem Heads.pull (heads : op.Heads names) (cancelled : Bool) : (op.pull cancelled).stream.Heads names := by
  cases heads with
  | map source named =>
    rw [pull_map]
    exact .map _ named
  | @groupBy grouping seen source keeps named =>
    rw [pull_groupBy]
    obtain ⟨same, records, applied⟩ := Grouped.pull_accepts Operator.pull remaining ⟨grouping, source⟩ cancelled
    have later := keeps.applyAll applied
    rw [← same] at later
    exact .groupBy _ later ((congrArg GroupSpec.rowNames same).trans named)

theorem Heads.after (heads : op.Heads names) (signals : List Bool) : (Operator.pull.after signals op).Heads names := by
  induction signals generalizing op with
  | nil => exact heads
  | cons cancelled signals ih => exact ih (heads.pull cancelled)

theorem Heads.names_of_pull (heads : op.Heads names) (answered : (op.pull cancelled).answer = .ok (some made)) :
    made.names = names := by
  cases heads with
  | @map projection source named =>
    rw [pull_map] at answered
    unfold Pulled.map Pull.map at answered
    split at answered
    · cases answered
    · dsimp only at answered
      split at answered
      · rename_i record given
        cases applied : projection.apply record with
        | error failure => simp [applied, Except.map] at answered
        | ok row =>
          simp only [applied, Except.map, Except.ok.injEq, Option.some.injEq] at answered
          rw [← answered, Projection.names_of_apply applied, named]
      · rename_i silent
        exact absurd answered (silent made)
  | @groupBy grouping seen source keeps named =>
    rw [pull_groupBy] at answered
    exact (@Grouped.names_of_pull _ _ ⟨grouping, source⟩ _ _ _ _ keeps answered).trans named

end Operator

theorem GroupSpec.rowNames_of_make {key : List Formula} {keyNames fields : List String} {aggregates : List Aggregate}
    {names : List String} {mode : EmitMode} {strategy : ExtremumStrategy} {spec : GroupSpec}
    (made : GroupSpec.make key keyNames fields aggregates names mode strategy = .ok spec) :
    spec.rowNames = keyNames ++ names := by
  unfold GroupSpec.make at made
  split at made
  · split at made
    · cases made
    · rename_i lengths
      cases made
      simp only [not_or, not_not] at lengths
      have last : ((fields.zip (aggregates.zip names)).map (·.2)).map (·.2) = names := by
        rw [List.map_snd_zip (by simp; omega), List.map_snd_zip (by omega)]
      rw [List.map_map] at last
      unfold rowNames
      rw [List.map_map]
      exact congrArg (keyNames ++ ·) last
  · cases made

namespace Plan

def columnNames? : Plan → Option (List String)
  | .map columns _ => some (Column.names columns)
  | .groupBy key measures _ => some (Expr.keyNames key ++ measures.map (·.outputName))
  | _ => none

theorem heads_of_materialize {settings : Settings} {catalog after : Catalog} {plan : Plan} {names : List String}
    {op : Operator} (named : plan.columnNames? = some names)
    (compiled : plan.materialize settings catalog = .ok (op, after)) : op.Heads names := by
  cases plan with
  | map columns source =>
    cases named
    obtain ⟨below, _, formulas, _, projection, made, rfl⟩ := materialize_map.mp compiled
    exact .map below (Projection.make_eq_ok.mp made).2.symm
  | groupBy key measures source =>
    cases named
    obtain ⟨_, below, _, formulas, _, spec, made, rfl⟩ := materialize_groupBy.mp compiled
    exact .groupBy below (GroupTable.keeps_empty spec) (GroupSpec.rowNames_of_make made)
  | _ => cases named

-- The records that a projection or a grouping answers with have the columns that its plan names, in that order. What a
-- sink writes of one is an object that has each name once. Under a name that only one column has it shows what a look-up
-- finds, else the last column of the name; and it has as many members as there are columns exactly if no name repeats.
theorem sink_agrees_with_lookup (plan : Plan) (names : List String) (named : plan.columnNames? = some names)
    (settings : Settings) (catalog after : Catalog) (op : Operator)
    (compiled : plan.materialize settings catalog = .ok (op, after)) (signals : List Bool) (cancelled : Bool)
    (made : Record) (answered : (Operator.pull (Operator.pull.after signals op) cancelled).answer = .ok (some made)) :
    ∃ members, made.WrittenAs names members ∧
      ∀ array : JsonArray, (array.write made).1 = .ok () →
        ∃ delimiter : Delimiter, (array.write made).2.writer.taken.toList =
          array.writer.taken.toList ++ [delimiter.byte] ++ Text.bytes (Json.object members).chars ++ ['\n'.toUInt8] := by
  have heads := (heads_of_materialize named compiled).after signals
  have written := made.writtenAs
  rw [heads.names_of_pull answered] at written
  refine ⟨_, written, ?_⟩
  intro array done
  have unclosed : array.closed = false := by
    cases closed : array.closed with
    | false => rfl
    | true => simp [JsonArray.write, closed] at done
  have adding := JsonArray.adding_write unclosed
    (JsonArray.adding_nothing array.writer.fits_nil array.writer.take_nil.symm) made
  have taken := adding.all (adding.ok_iff.mp done)
  dsimp only at taken
  refine ⟨if array.written = 0 then .opening else .separating, ?_⟩
  rw [taken, Writer.taken_take, JsonArray.jsonBytes_eq, written.object]
  simp only [List.nil_append, List.append_assoc]

def twoKeys : Plan :=
  .groupBy [.variable "k", .call "+" [.variable "k", .constant (.int 1)]] [⟨"v", .sum, ""⟩, ⟨"", .count, "n"⟩]
    (.scan { name := "t" })

def oneOrder : Catalog where
  entries := [("t", .memory [⟨[("k", .int 1), ("v", .int 5)], .insert⟩])]

def orderRow : Record := ⟨[("k", .int 1), ("key_1", .int 2), ("sum(v)", .int 5), ("n", .int 1)], .insert⟩

theorem sink_agrees_with_lookup_twoKeys :
    ∃ op after, twoKeys.materialize {} oneOrder = .ok (op, after) ∧
      (Operator.pull op false).answer = .ok (some orderRow) ∧
      ∃ members, orderRow.WrittenAs ["k", "key_1", "sum(v)", "n"] members ∧ members.length = 4 ∧
        members.lookup "key_1" = some (Json.integer 2) ∧ members.lookup "sum(v)" = some (Json.integer 5) := by
  refine ⟨_, _, rfl, by decide +kernel, ?_⟩
  obtain ⟨members, written, _⟩ := sink_agrees_with_lookup twoKeys ["k", "key_1", "sum(v)", "n"] (by decide +kernel) {}
    oneOrder _ _ rfl [] false orderRow (by decide +kernel)
  exact ⟨members, written, written.whole.mpr (by decide), written.agrees "key_1" (by decide),
    written.agrees "sum(v)" (by decide)⟩

def aliasTwice : Plan := .map [⟨.variable "a", "x"⟩, ⟨.variable "b", "x"⟩] (.scan { name := "t" })

def onePair : Catalog where
  entries := [("t", .memory [⟨[("a", .int 1), ("b", .int 2)], .insert⟩])]

-- The sink writes one member for two columns, with a value that a look-up does not find.
theorem sink_loses_column :
    ∃ op after made members, aliasTwice.materialize {} onePair = .ok (op, after) ∧
      (Operator.pull op false).answer = .ok (some made) ∧ made.toJson = .object members ∧
      made.columns.length = 2 ∧ members.length = 1 ∧
      made.value? "x" = some (.int 1) ∧ members.lookup "x" = some (Json.integer 2) := by
  refine ⟨_, _, ⟨[("x", .int 1), ("x", .int 2)], .insert⟩, [("x", .integer 2)], rfl, ?_, rfl, rfl, rfl, rfl, rfl⟩
  decide +kernel

end Plan

end DeltaQuery
