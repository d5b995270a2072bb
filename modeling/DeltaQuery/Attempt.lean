namespace DeltaQuery

-- An attempt that fails leaves a state behind too: the one it had reached by then.
structure Attempt (ε σ α : Type) where
  result : Except ε α
  state : σ

namespace Attempt

variable {ε σ τ α : Type}

def done (state : σ) (value : α) : Attempt ε σ α := ⟨.ok value, state⟩

def failed (state : σ) (failure : ε) : Attempt ε σ α := ⟨.error failure, state⟩

def map (wrap : σ → τ) (attempt : Attempt ε σ α) : Attempt ε τ α := ⟨attempt.result, wrap attempt.state⟩

-- The same attempt on a part of a state, when what becomes of the rest depends on how it went.
def settle (attempt : Attempt ε σ α) (onFailure onSuccess : σ → τ) : Attempt ε τ α where
  result := attempt.result
  state :=
    match attempt.result with
    | .error _ => onFailure attempt.state
    | .ok _ => onSuccess attempt.state

@[simp] theorem done_result (state : σ) (value : α) : (done state value : Attempt ε σ α).result = .ok value := rfl
@[simp] theorem done_state (state : σ) (value : α) : (done state value : Attempt ε σ α).state = state := rfl
@[simp] theorem failed_result (state : σ) (failure : ε) :
    (failed state failure : Attempt ε σ α).result = .error failure := rfl
@[simp] theorem failed_state (state : σ) (failure : ε) : (failed state failure : Attempt ε σ α).state = state := rfl
@[simp] theorem map_result (wrap : σ → τ) (attempt : Attempt ε σ α) : (attempt.map wrap).result = attempt.result := rfl
@[simp] theorem map_state (wrap : σ → τ) (attempt : Attempt ε σ α) : (attempt.map wrap).state = wrap attempt.state := rfl
@[simp] theorem settle_result (attempt : Attempt ε σ α) (onFailure onSuccess : σ → τ) :
    (attempt.settle onFailure onSuccess).result = attempt.result := rfl

theorem settle_state_of_ok {attempt : Attempt ε σ α} {value : α} (done : attempt.result = .ok value)
    (onFailure onSuccess : σ → τ) : (attempt.settle onFailure onSuccess).state = onSuccess attempt.state := by
  simp only [settle, done]

-- An attempt that goes exactly as its check says, and where that fails leaves things as they were before.
structure Follows (attempt : Attempt ε σ α) (check : Except ε α) (before : σ) : Prop where
  result : attempt.result = check
  unchanged : ∀ failure, check = .error failure → attempt.state = before

theorem follows_done (before state : σ) (value : α) : (done state value : Attempt ε σ α).Follows (.ok value) before :=
  ⟨rfl, nofun⟩

theorem follows_failed (before : σ) (failure : ε) :
    (failed before failure : Attempt ε σ α).Follows (.error failure) before :=
  ⟨rfl, fun _ _ => rfl⟩

variable {attempt : Attempt ε σ α} {check : Except ε α} {before : σ}

theorem Follows.map (follows : attempt.Follows check before) (wrap : σ → τ) :
    (attempt.map wrap).Follows check (wrap before) := by
  refine ⟨follows.result, ?_⟩
  intro failure refused
  exact congrArg wrap (follows.unchanged failure refused)

theorem Follows.settle (follows : attempt.Follows check before) (onFailure onSuccess : σ → τ) :
    (attempt.settle onFailure onSuccess).Follows check (onFailure before) := by
  refine ⟨follows.result, ?_⟩
  intro failure refused
  simp only [Attempt.settle, follows.result, refused, follows.unchanged failure refused]

theorem Follows.ok {value : α} (follows : attempt.Follows check before) (accepted : check = .ok value) :
    attempt.result = .ok value := follows.result.trans accepted

theorem Follows.refused {failure : ε} (follows : attempt.Follows check before) (refused : check = .error failure) :
    attempt = .failed before failure := by
  obtain ⟨result, state⟩ := attempt
  cases follows.result.trans refused
  cases follows.unchanged failure refused
  rfl

end Attempt

end DeltaQuery
