import DeltaQuery.Group

namespace DeltaQuery

variable {σ : Type}

inductive Phase
  | open
  | draining
  | closed
  | failed
deriving DecidableEq

def Phase.name : Phase → String
  | .open => "Open"
  | .draining => "Draining"
  | .closed => "Closed"
  | .failed => "Failed"

structure Grouping where
  spec : GroupSpec
  table : GroupTable := {}
  phase : Phase := .open
  drained : Nat := 0

structure Grouped (σ : Type) where
  grouping : Grouping
  source : σ

namespace Grouped

def inPhase (grouped : Grouped σ) (phase : Phase) : Grouped σ :=
  { grouped with grouping := { grouped.grouping with phase } }

def fail (grouped : Grouped σ) (failure : Failure) (cancelled : Bool) : Pulled (Grouped σ) :=
  { answer := .error failure, stream := grouped.inPhase .failed, cancelled }

def answering (grouped : Grouped σ) (row : Except Failure Record) (cancelled : Bool) : Pulled (Grouped σ) :=
  match row with
  | .ok record => { answer := .ok (some record), stream := grouped, cancelled }
  | .error failure => grouped.fail failure cancelled

def drain (grouped : Grouped σ) (cancelled : Bool) : Pulled (Grouped σ) :=
  let grouping := grouped.grouping
  let finished : Pulled (Grouped σ) := { answer := .ok none, stream := grouped.inPhase .closed, cancelled }
  match grouping.spec.emitMode with
  | .changelog => finished
  | .final =>
    if cancelled then grouped.fail (Failure.of (.stopped .groupBy)) cancelled
    else
      match grouping.table.liveFrom? grouping.drained with
      | none => finished
      | some (slot, group) =>
        let grouped := { grouped with grouping := { grouping with drained := slot + 1 } }
        grouped.answering (group.row grouping.spec .insert) cancelled

-- Takes in records until there is an answer; in one that waits for the end, at most `fuel` more.
def absorb (next : Pull σ) : (fuel : Nat) → Pull (Grouped σ)
  | fuel, grouped, cancelled =>
    if cancelled then grouped.fail (Failure.of (.stopped .groupBy)) cancelled
    else
      let pulled := next grouped.source cancelled
      let grouped := { grouped with source := pulled.stream }
      match pulled.answer with
      | .error failure => grouped.fail failure pulled.cancelled
      | .ok none => (grouped.inPhase .draining).drain pulled.cancelled
      | .ok (some record) =>
        let applied := grouped.grouping.table.apply grouped.grouping.spec record
        let grouped := { grouped with grouping := { grouped.grouping with table := applied.state } }
        match applied.result with
        | .error failure => grouped.fail failure pulled.cancelled
        | .ok group =>
          match grouped.grouping.spec.emitMode, fuel with
          | .changelog, _ =>
            grouped.answering (group.row grouped.grouping.spec record.kind) pulled.cancelled
          | .final, 0 => grouped.fail (Failure.of .endlessStream) pulled.cancelled
          | .final, fuel + 1 => absorb next fuel grouped pulled.cancelled

-- By changelog every record is answered with the row of its group, under the record's own kind. At the end there is a
-- row for every group with a live record, in the order in which the groups were first seen. A pull that fails leaves
-- it failed for good.
def pull (next : Pull σ) (remaining : σ → Nat) : Pull (Grouped σ) := fun grouped cancelled =>
  match grouped.grouping.phase with
  | .failed => { answer := .error (Failure.of .pulledAfterFailure), stream := grouped, cancelled }
  | .closed => { answer := .ok none, stream := grouped, cancelled }
  | .draining => grouped.drain cancelled
  | .open =>
    match grouped.grouping.spec.emitMode with
    | .changelog => absorb next 0 grouped cancelled
    | .final => absorb next (remaining grouped.source) grouped cancelled

end Grouped

end DeltaQuery
