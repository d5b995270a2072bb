import DeltaQuery.Stream

namespace DeltaQuery

variable {σ : Type}

def Pull.scan (next : Pull σ) (name : String) : Pull σ := fun source cancelled =>
  if cancelled then { answer := stopped .scan, stream := source, cancelled }
  else
    let pulled := next source cancelled
    { pulled with answer := (Place.reading name).around pulled.answer }

-- The records whose predicate is true; false, NULL and all other values drop a record. The stream below is
-- pulled again at most `fuel` times.
def Pull.filter (next : Pull σ) (predicate : Formula) : (fuel : Nat) → Pull σ
  | fuel, source, cancelled =>
    if cancelled then { answer := stopped .filter, stream := source, cancelled }
    else
      let pulled := next source cancelled
      match pulled.answer with
      | .ok (some record) =>
        match Place.filterPredicate.around (failing (predicate.evaluate record)) with
        | .error failure => { pulled with answer := .error failure }
        | .ok verdict =>
          if verdict = .bool true then pulled
          else
            match fuel with
            | 0 => { pulled with answer := .error (Failure.of .endlessStream) }
            | fuel + 1 => Pull.filter next predicate fuel pulled.stream pulled.cancelled
      | _ => pulled

structure Projection where
  names : List String
  formulas : List Formula
  aligned : formulas.length = names.length

def Projection.make (formulas : List Formula) (names : List String) : Except Cause Projection :=
  if aligned : formulas.length = names.length then .ok { names, formulas, aligned }
  else .error (.mapNames formulas.length names.length)

def Projection.apply (projection : Projection) (record : Record) : Except Failure Record :=
  (Formula.evaluateEach .mapColumn record 0 projection.formulas).map fun values =>
    Record.ofLists projection.names values record.kind

def Pull.map (next : Pull σ) (projection : Projection) : Pull σ := fun source cancelled =>
  if cancelled then { answer := stopped .map, stream := source, cancelled }
  else
    let pulled := next source cancelled
    match pulled.answer with
    | .ok (some record) => { pulled with answer := (projection.apply record).map some }
    | _ => pulled

end DeltaQuery
