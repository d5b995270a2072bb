import DeltaQuery.Stream
import DeltaQuery.Stream.JsonLines

namespace DeltaQuery

-- Records with two pulls at which something happens: one calls the run off and goes on, one fails and
-- takes no record. Pulls are counted from 0.
structure Script where
  pending : List Record
  pulls : Nat := 0
  cancelAt : Option Nat := none
  failAt : Option Nat := none

inductive Feed
  | replay (pending : List Record)
  | lines (reader : JsonLines)
  | script (script : Script)

def Script.pull : Pull Script := fun script cancelled =>
  let cancelled := cancelled || script.cancelAt == some script.pulls
  let after := { script with pulls := script.pulls + 1 }
  if script.failAt = some script.pulls then
    { answer := .error (Failure.of (.scriptedPull script.pulls)), stream := after, cancelled }
  else
    { answer := .ok script.pending.head?, stream := { after with pending := script.pending.tail }, cancelled }

namespace Feed

def pull : Pull Feed := fun feed cancelled =>
  match feed with
  | .replay pending => { answer := .ok pending.head?, stream := .replay pending.tail, cancelled }
  | .lines reader =>
    let (answer, reader) := reader.pull
    { answer := failing answer, stream := .lines reader, cancelled }
  | .script s => (s.pull cancelled).map .script

def remaining : Feed → Nat
  | .replay pending => pending.length
  | .lines reader => reader.pending.length
  | .script s => s.pending.length

end Feed

end DeltaQuery
