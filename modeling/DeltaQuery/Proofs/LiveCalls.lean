import DeltaQuery.Proofs.LiveCount

namespace DeltaQuery.LiveValues

inductive Call
  | insert (value : Value)
  | remove (value : Value)
  | multiplicity (value : Value)

def call (live : LiveValues) : Call → Option Nat × LiveValues
  | .insert value => (some (live.add value).1, (live.add value).2)
  | .remove value =>
    match live.withdraw? value with
    | some (left, rest) => (some left, rest)
    | none => (none, live)
  | .multiplicity value => (some (live.multiplicity value), live)

-- The change that a call makes. A removal that gives nothing back has made none.
def Call.change? (reply : Option Nat) : Call → Option Change
  | .insert value => some (.insert, value)
  | .remove value => reply.map fun _ => (.retract, value)
  | .multiplicity _ => none

def afterCalls (live : LiveValues) : List Call → LiveValues
  | [] => live
  | call :: calls => (live.call call).2.afterCalls calls

def made (live : LiveValues) : List Call → List Change
  | [] => []
  | call :: calls => (call.change? (live.call call).1).toList ++ (live.call call).2.made calls

variable {live : LiveValues} {values : List Value} {value : Value} {changes : List Change}

theorem Holds.withdraw?_of_not_mem (holds : live.Holds values) (absent : value ∉ values) :
    live.withdraw? value = none := by
  unfold withdraw?
  rw [holds.copies value, if_neg absent]

theorem Holds.withdraw?_of_mem (holds : live.Holds values) (held : value ∈ values) :
    live.withdraw? value = some (values.count value - 1, live.erase value) := by
  unfold LiveValues.erase withdraw?
  rw [holds.copies value, if_pos held]
  rfl

theorem Holds.call_remove (holds : live.Holds values) (value : Value) :
    live.call (.remove value) =
      if value ∈ values then (some (values.count value - 1), live.erase value) else (none, live) := by
  by_cases held : value ∈ values
  · simp only [call, holds.withdraw?_of_mem held, if_pos held]
  · simp only [call, holds.withdraw?_of_not_mem held, if_neg held]

structure Tracks (live : LiveValues) (changes : List Change) (values : List Value) : Prop where
  holds : live.Holds values
  balance : ∀ value, values.count value + changes.count (.retract, value) = changes.count (.insert, value)

theorem tracks_empty : Tracks {} [] [] := ⟨holds_empty, fun _ => rfl⟩

theorem Tracks.insert (tracks : live.Tracks changes values) (value : Value) :
    (live.insert value).Tracks (changes ++ [(.insert, value)]) (values ++ [value]) := by
  refine ⟨tracks.holds.insert value, ?_⟩
  intro other
  have before := tracks.balance other
  simp only [List.count_append, List.count_singleton, beq_iff_eq, Prod.mk.injEq, reduceCtorEq, false_and, true_and,
    if_false]
  split <;> omega

theorem Tracks.erase (tracks : live.Tracks changes values) (held : value ∈ values) :
    (live.erase value).Tracks (changes ++ [(.retract, value)]) (values.erase value) := by
  refine ⟨tracks.holds.erase value, ?_⟩
  intro other
  have before := tracks.balance other
  have positive := List.count_pos_iff.mpr held
  simp only [List.count_append, List.count_singleton, List.count_erase, beq_iff_eq, Prod.mk.injEq, reduceCtorEq, false_and,
    true_and, if_false]
  split
  next same =>
    subst same
    omega
  next => omega

theorem Tracks.call (tracks : live.Tracks changes values) (call : Call) :
    ∃ after, (live.call call).2.Tracks (changes ++ (call.change? (live.call call).1).toList) after := by
  cases call with
  | insert value => exact ⟨_, tracks.insert value⟩
  | multiplicity value => exact ⟨values, by simpa [LiveValues.call, Call.change?] using tracks⟩
  | remove value =>
    rw [tracks.holds.call_remove value]
    split
    next held => exact ⟨_, tracks.erase held⟩
    next absent => exact ⟨values, by simpa [Call.change?] using tracks⟩

theorem Tracks.afterCalls (tracks : live.Tracks changes values) (calls : List Call) :
    ∃ after, (live.afterCalls calls).Tracks (changes ++ live.made calls) after := by
  induction calls generalizing live changes values with
  | nil => exact ⟨values, by simpa [LiveValues.afterCalls, made] using tracks⟩
  | cons call calls ih =>
    obtain ⟨between, stepped⟩ := tracks.call call
    obtain ⟨after, rest⟩ := ih stepped
    rw [List.append_assoc] at rest
    exact ⟨after, rest⟩

theorem Holds.mem_toList_iff (holds : live.Holds values) {copies : Nat} :
    (value, copies) ∈ live.counts.toList ↔ live.multiplicity value = copies ∧ 0 < copies := by
  rw [Std.TreeMap.mem_toList_iff_getElem?_eq_some, holds.copies value, holds.multiplicity]
  split
  next held =>
    have positive := List.count_pos_iff.mpr held
    rw [Option.some.injEq]
    constructor
    · rintro rfl
      exact ⟨rfl, positive⟩
    · exact And.left
  next absent =>
    rw [List.count_eq_zero.mpr absent]
    constructor
    · nofun
    · rintro ⟨rfl, positive⟩
      cases positive

theorem Holds.isEmpty_iff (holds : live.Holds values) :
    live.isEmpty = true ↔ ∀ value, live.multiplicity value = 0 := by
  unfold isEmpty
  rw [beq_iff_eq, holds.size, List.length_eq_zero_iff]
  simp only [holds.multiplicity_eq_zero_iff]
  exact List.eq_nil_iff_forall_not_mem

theorem Holds.remove_cases (holds : live.Holds values) (value : Value) :
    if live.multiplicity value = 0 then live.call (.remove value) = (none, live)
    else ∃ left rest, live.call (.remove value) = (some left, rest) ∧ rest.multiplicity value = left ∧
      live.multiplicity value = left + 1 ∧ live.size = rest.size + 1 := by
  rw [holds.call_remove value]
  split
  next none =>
    rw [if_neg ((holds.multiplicity_eq_zero_iff value).mp none)]
  next some =>
    have held : value ∈ values := not_not.mp (mt (holds.multiplicity_eq_zero_iff value).mpr some)
    have positive := List.count_pos_iff.mpr held
    have after := holds.erase value
    rw [if_pos held]
    refine ⟨_, _, rfl, ?_, ?_, ?_⟩
    · rw [after.multiplicity, List.count_erase_self]
    · rw [holds.multiplicity]
      omega
    · rw [holds.size, after.size, List.length_erase_of_mem held]
      have := List.length_pos_of_mem held
      omega

-- After any calls, the multiplicity of a value is the number of copies that came less those that were removed. An insertion
-- gives back the new one; a removal gives back what is left, or nothing if there was no copy, and then nothing changes. The
-- entries are the values with a multiplicity above zero, the size is the sum of these, and a removal that goes through takes
-- one off counts that are not zero.
theorem counts_copies (calls : List Call) :
    let live := ({} : LiveValues).afterCalls calls
    let made := ({} : LiveValues).made calls
    (∀ value, live.multiplicity value + made.count (.retract, value) = made.count (.insert, value)) ∧
      (∀ value, (live.call (.insert value)).1 = some (live.multiplicity value + 1) ∧
        (live.call (.insert value)).2.multiplicity value = live.multiplicity value + 1) ∧
      (∀ value, if live.multiplicity value = 0 then live.call (.remove value) = (none, live)
        else ∃ left rest, live.call (.remove value) = (some left, rest) ∧ rest.multiplicity value = left ∧
          live.multiplicity value = left + 1 ∧ live.size = rest.size + 1) ∧
      (∀ value copies, (value, copies) ∈ live.counts.toList ↔ live.multiplicity value = copies ∧ 0 < copies) ∧
      live.size = (live.counts.toList.map (·.2)).sum ∧
      (live.isEmpty = true ↔ ∀ value, live.multiplicity value = 0) := by
  intro live made
  obtain ⟨values, tracks⟩ := tracks_empty.afterCalls calls
  have holds : live.Holds values := tracks.holds
  refine ⟨?_, ?_, holds.remove_cases, fun _ _ => holds.mem_toList_iff, ?_, holds.isEmpty_iff⟩
  · intro value
    rw [holds.multiplicity]
    exact tracks.balance value
  · intro value
    have after : (live.insert value).multiplicity value = _ := (holds.insert value).multiplicity value
    rw [List.count_append, List.count_singleton_self, ← holds.multiplicity] at after
    exact ⟨rfl, after⟩
  · exact holds.size.trans holds.copies.sum_eq_length.symm

end DeltaQuery.LiveValues
