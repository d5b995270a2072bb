import DeltaQuery.Stream

namespace DeltaQuery

variable {σ τ : Type} {next : Pull σ} {stream : σ} {records : List Record} {outcome : Except Failure Unit}

namespace Pull

-- The records of a stream while the run is not called off, and whether it ends or fails after them.
inductive Runs (next : Pull σ) : σ → List Record → Except Failure Unit → Prop
  | ended {stream : σ} (answer : (next stream false).answer = .ok none)
      (running : (next stream false).cancelled = false) : Runs next stream [] (.ok ())
  | failed {stream : σ} {failure : Failure} (answer : (next stream false).answer = .error failure) :
      Runs next stream [] (.error failure)
  | record {stream : σ} {record : Record} {records : List Record} {outcome : Except Failure Unit}
      (answer : (next stream false).answer = .ok (some record)) (running : (next stream false).cancelled = false)
      (rest : Runs next (next stream false).stream records outcome) : Runs next stream (record :: records) outcome

theorem Runs.unique (runs : next.Runs stream records outcome) {others : List Record} {other : Except Failure Unit}
    (again : next.Runs stream others other) : others = records ∧ other = outcome := by
  induction runs generalizing others with
  | ended answer running =>
    cases again with
    | ended => exact ⟨rfl, rfl⟩
    | failed fails => cases answer.symm.trans fails
    | record gives => cases answer.symm.trans gives
  | failed answer =>
    cases again with
    | ended ends => cases answer.symm.trans ends
    | failed fails =>
      cases answer.symm.trans fails
      exact ⟨rfl, rfl⟩
    | record gives => cases answer.symm.trans gives
  | record answer running rest ih =>
    cases again with
    | ended ends => cases answer.symm.trans ends
    | failed fails => cases answer.symm.trans fails
    | record gives _ later =>
      cases answer.symm.trans gives
      obtain ⟨rfl, rfl⟩ := ih later
      exact ⟨rfl, rfl⟩

theorem Runs.start {other : σ} (runs : next.Runs stream records outcome) (same : next other false = next stream false) :
    next.Runs other records outcome := by
  cases runs with
  | ended answer running => exact .ended (same ▸ answer) (same ▸ running)
  | failed answer => exact .failed (same ▸ answer)
  | record answer running rest => exact .record (same ▸ answer) (same ▸ running) (same ▸ rest)

theorem Runs.within {outer : Pull τ} {wrap : σ → τ} (runs : next.Runs stream records outcome)
    (pulled : ∀ stream, outer (wrap stream) false = (next stream false).map wrap) :
    outer.Runs (wrap stream) records outcome := by
  induction runs with
  | @ended stream answer running =>
    exact .ended (by rw [pulled]; exact answer) (by rw [pulled]; exact running)
  | @failed stream failure answer => exact .failed (by rw [pulled]; exact answer)
  | @record stream record records outcome answer running rest ih =>
    refine .record (by rw [pulled]; exact answer) (by rw [pulled]; exact running) ?_
    rw [pulled]
    exact ih

end Pull

def Answer.size : Answer → Nat
  | .ok (some _) => 1
  | _ => 0

-- A number that no pull raises and every record lowers.
def Pull.Bounds (next : Pull σ) (left : σ → Nat) : Prop :=
  ∀ stream cancelled, left (next stream cancelled).stream + (next stream cancelled).answer.size ≤ left stream

theorem Pull.Runs.length_le {left : σ → Nat} (bounds : next.Bounds left) (runs : next.Runs stream records outcome) :
    records.length ≤ left stream := by
  induction runs with
  | ended => exact Nat.zero_le _
  | failed => exact Nat.zero_le _
  | @record stream record records outcome answer running rest ih =>
    have less := bounds stream false
    rw [answer] at less
    exact Nat.le_trans (Nat.succ_le_succ ih) less

end DeltaQuery
