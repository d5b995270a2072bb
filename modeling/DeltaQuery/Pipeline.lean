import DeltaQuery.Operator
import DeltaQuery.Sink

namespace DeltaQuery.Pipeline

variable {σ τ : Type}

-- The sink is closed once, after the last record. A run that fails leaves it open, so that what it has written does
-- not look complete.
def runFrom (next : Pull σ) (sink : Sink τ) : (fuel : Nat) → σ → Bool → τ → Nat → Except Failure Nat × τ
  | fuel, stream, cancelled, output, count =>
    let pulled := next stream cancelled
    match Place.nextRecord.around pulled.answer with
    | .error failure => (.error failure, output)
    | .ok none =>
      let (result, output) := sink.close output
      ((Place.closeOutput.around result).map fun _ => count, output)
    | .ok (some record) =>
      let (result, output) := sink.write output record
      match Place.writeRecord.around result, fuel with
      | .error failure, _ => (.error failure, output)
      | .ok (), 0 => (.error (Failure.of .endlessStream), output)
      | .ok (), fuel + 1 => runFrom next sink fuel pulled.stream pulled.cancelled output (count + 1)

def run (sink : Sink τ) (op : Operator) (output : τ) : Except Failure Nat × τ :=
  runFrom Operator.pull sink op.remaining op false output 0

end DeltaQuery.Pipeline
