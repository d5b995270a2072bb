import DeltaQuery.Accumulator
import DeltaQuery.Stream

namespace DeltaQuery

-- One aggregate of a grouping: the field it is fed from, empty for whole records, and its output column.
structure GroupColumn where
  field : String
  aggregate : Aggregate
  name : String

def GroupColumn.wholeRecord : Value := .bool true

-- What a record feeds to a column's accumulator; nothing if it has no such field.
def GroupColumn.fed? (column : GroupColumn) (record : Record) : Option Value :=
  if column.field.isEmpty then some wholeRecord else record.value? column.field

structure GroupSpec where
  keyNames : List String
  key : List Formula
  columns : List GroupColumn
  emitMode : EmitMode
  strategy : ExtremumStrategy
  aligned : key.length = keyNames.length

-- A grouping over lists from outside, which have to match.
def GroupSpec.make (key : List Formula) (keyNames fields : List String) (aggregates : List Aggregate)
    (names : List String) (emitMode : EmitMode) (strategy : ExtremumStrategy) : Except Cause GroupSpec :=
  if aligned : key.length = keyNames.length then
    if fields.length ≠ aggregates.length ∨ fields.length ≠ names.length then
      .error (.groupNames fields.length aggregates.length names.length)
    else
      let columns := (fields.zip (aggregates.zip names)).map fun (field, aggregate, name) =>
        { field, aggregate, name }
      .ok { keyNames, key, columns, emitMode, strategy, aligned }
  else .error (.groupKeyNames key.length keyNames.length)

namespace GroupSpec

def aggregates (spec : GroupSpec) : List Aggregate := spec.columns.map (·.aggregate)

def rowNames (spec : GroupSpec) : List String := spec.keyNames ++ spec.columns.map (·.name)

def evaluateKey (spec : GroupSpec) (record : Record) : Except Failure (List Value) :=
  Formula.evaluateEach .groupKey record 0 spec.key

def fieldsFrom (record : Record) (index : Nat) : List GroupColumn → Except Failure (List Value)
  | [] => .ok []
  | column :: columns =>
    match column.fed? record with
    | none => .error ((Failure.of (.unknownField column.field)).within (.aggregatedField index))
    | some value => (fieldsFrom record (index + 1) columns).map (value :: ·)

def evaluateFields (spec : GroupSpec) (record : Record) : Except Failure (List Value) :=
  fieldsFrom record 0 spec.columns

end GroupSpec

namespace Accumulator

def check (kind : EventKind) (value : Value) (accumulator : Accumulator) : Except Cause Unit :=
  if value.isNull then .ok ()
  else
    match kind with
    | .insert => accumulator.checkIncorporate value
    | .retract => accumulator.checkUndo value

def change (kind : EventKind) (value : Value) (accumulator : Accumulator) : Attempt Cause Accumulator Unit :=
  if value.isNull then .done accumulator ()
  else
    match kind with
    | .insert => accumulator.incorporate value
    | .retract => accumulator.undo value

-- The cell of an output row: an aggregate over no values is NULL.
def cell (accumulator : Accumulator) : Except Failure Value :=
  match accumulator.current with
  | .ok value => .ok value
  | .error cause => if cause.kind.isValueLevel then .ok .null else .error (Failure.of cause)

end Accumulator

structure Group where
  key : List Value
  accumulators : List Accumulator
  -- Inserts less retractions.
  live : Nat

namespace Group

def fresh (spec : GroupSpec) (key : List Value) : Group :=
  { key, accumulators := spec.aggregates.map (Accumulator.fresh spec.strategy), live := 0 }

def checkFrom (kind : EventKind) (index : Nat) :
    List Aggregate → List Accumulator → List Value → Except Failure Unit
  | aggregate :: aggregates, accumulator :: accumulators, value :: values =>
    match (Place.aggregateUpdate aggregate index).around (failing (accumulator.check kind value)) with
    | .error failure => .error failure
    | .ok () => checkFrom kind (index + 1) aggregates accumulators values
  | _, _, _ => .ok ()

-- The accumulators are changed one after the other. If one fails, those before it have been changed.
def changeFrom (kind : EventKind) (index : Nat) :
    List Aggregate → List Accumulator → List Value → Attempt Failure (List Accumulator) Unit
  | aggregate :: aggregates, accumulator :: accumulators, value :: values =>
    let changed := accumulator.change kind value
    match (Place.aggregateUpdate aggregate index).around (failing changed.result) with
    | .error failure => .failed (changed.state :: accumulators) failure
    | .ok () => (changeFrom kind (index + 1) aggregates accumulators values).map (changed.state :: ·)
  | _, accumulators, _ => .done accumulators ()

def liveAfter (live : Nat) : EventKind → Nat
  | .insert => live + 1
  | .retract => live - 1

def update (spec : GroupSpec) (group : Group) (kind : EventKind) (values : List Value) :
    Attempt Failure Group Unit :=
  if kind.isRetraction && group.live == 0 then .failed group (Failure.of (.deadGroup group.key))
  else
    match checkFrom kind 0 spec.aggregates group.accumulators values with
    | .error failure => .failed group failure
    | .ok () =>
      let changed := changeFrom kind 0 spec.aggregates group.accumulators values
      let group := { group with accumulators := changed.state }
      match changed.result with
      | .error failure => .failed group failure
      | .ok () => .done { group with live := liveAfter group.live kind } ()

def cellsOf : List Accumulator → Except Failure (List Value)
  | [] => .ok []
  | accumulator :: accumulators =>
    match accumulator.cell with
    | .error failure => .error failure
    | .ok value => (cellsOf accumulators).map (value :: ·)

def row (spec : GroupSpec) (group : Group) (kind : EventKind) : Except Failure Record :=
  (cellsOf group.accumulators).map fun cells => Record.ofLists spec.rowNames (group.key ++ cells) kind

end Group

structure GroupTable where
  groups : Array Group := #[]
  index : Std.TreeMap (List Value) Nat Value.compareItems := ∅

namespace GroupTable

def size (table : GroupTable) : Nat := table.groups.size

def find? (table : GroupTable) (key : List Value) : Option (Nat × Group) := do
  let slot ← table.index[key]?
  let group ← table.groups[slot]?
  some (slot, group)

def enter (table : GroupTable) (group : Group) : GroupTable :=
  { groups := table.groups.push group, index := table.index.insert group.key table.groups.size }

def replace (table : GroupTable) (slot : Nat) (group : Group) : GroupTable :=
  { table with groups := table.groups.setIfInBounds slot group }

-- A record with this key and these field values. A group of the table is changed where it stands; a new one
-- enters only when its first record has been accepted.
def route (spec : GroupSpec) (table : GroupTable) (key : List Value) (kind : EventKind) (values : List Value) :
    Attempt Failure GroupTable Group :=
  match table.find? key, kind with
  | some (slot, group), kind =>
    let changed := group.update spec kind values
    ⟨changed.result.map fun () => changed.state, table.replace slot changed.state⟩
  | none, .insert =>
    let changed := (Group.fresh spec key).update spec .insert values
    match changed.result with
    | .error failure => .failed table failure
    | .ok () => .done (table.enter changed.state) changed.state
  | none, .retract => .failed table (Failure.of (.unseenGroup key))

def apply (spec : GroupSpec) (table : GroupTable) (record : Record) : Attempt Failure GroupTable Group :=
  match spec.evaluateKey record with
  | .error failure => .failed table failure
  | .ok key =>
    match spec.evaluateFields record with
    | .error failure => .failed table failure
    | .ok values => table.route spec key record.kind values

def liveFrom? (table : GroupTable) (slot : Nat) : Option (Nat × Group) := do
  let offset ← (table.groups.toList.drop slot).findIdx? (0 < ·.live)
  let group ← table.groups[slot + offset]?
  some (slot + offset, group)

end GroupTable

end DeltaQuery
