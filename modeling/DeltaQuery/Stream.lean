import DeltaQuery.Failure
import DeltaQuery.Formula

namespace DeltaQuery

abbrev Answer := Except Failure (Option Record)

structure Pulled (σ : Type) where
  answer : Answer
  stream : σ
  cancelled : Bool

-- The signal that the run has been called off goes into every pull and comes out of it, since what a stream reads
-- from may call the run off in the middle of a pull.
abbrev Pull (σ : Type) := σ → Bool → Pulled σ

def Pulled.map {σ τ : Type} (wrap : σ → τ) (pulled : Pulled σ) : Pulled τ :=
  { answer := pulled.answer, stream := wrap pulled.stream, cancelled := pulled.cancelled }

def stopped (stage : Stage) : Answer := .error (Failure.of (.stopped stage))

def Formula.evaluateEach (place : Nat → Place) (record : Record) (index : Nat) :
    List Formula → Except Failure (List Value)
  | [] => .ok []
  | formula :: formulas =>
    match (place index).around (failing (formula.evaluate record)) with
    | .error failure => .error failure
    | .ok value => (Formula.evaluateEach place record (index + 1) formulas).map (value :: ·)

end DeltaQuery
