import DeltaQuery.Stream

namespace DeltaQuery

variable {σ : Type}

structure Rotation (σ : Type) where
  streams : List σ
  cursor : Nat

-- A stream that ends leaves, and one that fails keeps its turn and is named by its place among those still there. At
-- most `turns` streams end in a pull.
def Rotation.pullWithin (next : Pull σ) : (turns : Nat) → Pull (Rotation σ)
  | 0, rotation, cancelled => { answer := .ok none, stream := rotation, cancelled }
  | turns + 1, rotation, cancelled =>
    let index := rotation.cursor % rotation.streams.length
    match rotation.streams[index]? with
    | none => { answer := .ok none, stream := rotation, cancelled }
    | some stream =>
      if cancelled then { answer := stopped .unionAll, stream := rotation, cancelled }
      else
        let pulled := next stream cancelled
        match pulled.answer with
        | .ok (some record) =>
          { answer := .ok (some record)
            stream := ⟨rotation.streams.set index pulled.stream, index + 1⟩
            cancelled := pulled.cancelled }
        | .ok none =>
          Rotation.pullWithin next turns ⟨rotation.streams.eraseIdx index, index⟩ pulled.cancelled
        | .error failure =>
          { answer := .error (failure.within (.unionChild index))
            stream := ⟨rotation.streams.set index pulled.stream, rotation.cursor⟩
            cancelled := pulled.cancelled }

def Rotation.pull (next : Pull σ) : Pull (Rotation σ) := fun rotation cancelled =>
  rotation.pullWithin next rotation.streams.length cancelled

end DeltaQuery
