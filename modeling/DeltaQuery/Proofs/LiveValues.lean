import DeltaQuery.Accumulator.LiveValues
import DeltaQuery.Proofs.ValueOrder

namespace DeltaQuery

variable {counts : Std.TreeMap Value Nat Value.compare} {values : List Value}

-- A map counts a list when it has an entry for each value of the list, the number of its copies, and no other.
def CopiesOf (counts : Std.TreeMap Value Nat Value.compare) (values : List Value) : Prop :=
  ∀ value, counts[value]? = if value ∈ values then some (values.count value) else none

namespace CopiesOf

theorem empty : CopiesOf ∅ [] := by
  intro value
  simp

theorem getD_eq (copied : CopiesOf counts values) (value : Value) : counts.getD value 0 = values.count value := by
  rw [Std.TreeMap.getD_eq_getD_getElem?, copied value]
  split
  · rfl
  · rename_i absent
    exact (List.count_eq_zero.mpr absent).symm

theorem contains_iff (copied : CopiesOf counts values) (value : Value) :
    counts.contains value = true ↔ value ∈ values := by
  rw [Std.TreeMap.contains_eq_isSome_getElem?, copied value]
  split <;> simp [*]

theorem insert (copied : CopiesOf counts values) (value : Value) :
    CopiesOf (counts.insert value (counts.getD value 0 + 1)) (values ++ [value]) := by
  intro other
  rw [Std.TreeMap.getElem?_insert, copied.getD_eq, copied other]
  by_cases same : value = other
  · subst same
    simp [Std.ReflCmp.compare_self]
  · have apart : Value.compare value other ≠ .eq := fun equal => same ((Value.compare_eq_iff _ _).mp equal)
    simp [apart, same, Ne.symm same, List.count_append]

theorem erase (copied : CopiesOf counts values) (value : Value) :
    CopiesOf (if values.count value - 1 = 0 then counts.erase value
      else counts.insert value (values.count value - 1)) (values.erase value) := by
  intro other
  by_cases same : value = other
  · subst same
    have left : (values.erase value).count value = values.count value - 1 := List.count_erase_self
    by_cases last : values.count value - 1 = 0
    · have absent : value ∉ values.erase value := List.count_eq_zero.mp (left.trans last)
      rw [if_pos last, if_neg absent, Std.TreeMap.getElem?_erase]
      simp [Std.ReflCmp.compare_self]
    · have present : value ∈ values.erase value := List.count_pos_iff.mp (by omega)
      rw [if_neg last, if_pos present, Std.TreeMap.getElem?_insert, left]
      simp [Std.ReflCmp.compare_self]
  · have apart : Value.compare value other ≠ .eq := fun equal => same ((Value.compare_eq_iff _ _).mp equal)
    have kept : (values.erase value).count other = values.count other := List.count_erase_of_ne (Ne.symm same)
    have member : other ∈ values.erase value ↔ other ∈ values := List.mem_erase_of_ne (Ne.symm same)
    have rest := copied other
    simp only [member, kept]
    split
    · rw [Std.TreeMap.getElem?_erase, if_neg apart, rest]
    · rw [Std.TreeMap.getElem?_insert, if_neg apart, rest]

end CopiesOf

namespace LiveValues

variable {live : LiveValues}

structure Holds (live : LiveValues) (values : List Value) : Prop where
  copies : CopiesOf live.counts values
  size : live.size = values.length

theorem holds_empty : Holds {} [] := ⟨CopiesOf.empty, rfl⟩

theorem Holds.multiplicity (holds : live.Holds values) (value : Value) :
    live.multiplicity value = values.count value := holds.copies.getD_eq value

theorem Holds.multiplicity_eq_zero_iff (holds : live.Holds values) (value : Value) :
    live.multiplicity value = 0 ↔ value ∉ values := by
  rw [holds.multiplicity, List.count_eq_zero]

theorem Holds.insert (holds : live.Holds values) (value : Value) :
    (live.insert value).Holds (values ++ [value]) := by
  refine ⟨holds.copies.insert value, ?_⟩
  change live.size + 1 = (values ++ [value]).length
  rw [holds.size, List.length_append]
  rfl

theorem Holds.erase (holds : live.Holds values) (value : Value) :
    (live.erase value).Holds (values.erase value) := by
  have entry := holds.copies value
  unfold LiveValues.erase withdraw?
  by_cases held : value ∈ values
  · rw [if_pos held] at entry
    rw [entry]
    refine ⟨holds.copies.erase value, ?_⟩
    change live.size - 1 = _
    rw [holds.size, List.length_erase_of_mem held]
  · rw [if_neg held] at entry
    rw [entry, List.erase_of_not_mem held]
    exact holds

end LiveValues

end DeltaQuery
