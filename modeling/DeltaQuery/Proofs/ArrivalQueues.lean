import DeltaQuery.Proofs.Arrival
import DeltaQuery.Proofs.Recomputation

namespace DeltaQuery

-- The list after a change. A value that is not in it is refused, and leaves it as it is.
def Change.list (values : List Value) : Change → List Value
  | (.insert, value) => values ++ [value]
  | (.retract, value) => values.erase value

namespace ArrivalOrder

def change (order : ArrivalOrder) : Change → Attempt Cause ArrivalOrder Unit
  | (.insert, value) => .done (order.incorporate value) ()
  | (.retract, value) => order.undo value

def afterChanges (order : ArrivalOrder) (changes : List Change) : ArrivalOrder :=
  changes.foldl (fun order change => (order.change change).state) order

variable {order : ArrivalOrder} {values : List Value} {value : Value}

theorem Holds.checkUndo_of_not_mem (holds : order.Holds values) (absent : value ∉ values) :
    order.checkUndo value = .error (.neverSaw order.wanted.aggregate value) :=
  if_neg fun contained => absent ((holds.contains_iff value).mp contained)

theorem Holds.undo_of_mem (holds : order.Holds values) (present : value ∈ values) :
    order.undo value = .done (order.withdraw value) () := by
  rw [ArrivalOrder.undo, holds.checkUndo_of_mem present]

theorem Holds.undo_of_not_mem (holds : order.Holds values) (absent : value ∉ values) :
    order.undo value = .failed order (.neverSaw order.wanted.aggregate value) :=
  (undo_follows order value).refused (holds.checkUndo_of_not_mem absent)

theorem Holds.change (holds : order.Holds values) (change : Change) :
    (order.change change).state.Holds (change.list values) := by
  obtain ⟨kind, value⟩ := change
  cases kind with
  | insert => exact holds.incorporate value
  | retract =>
    change (order.undo value).state.Holds (values.erase value)
    by_cases present : value ∈ values
    · rw [holds.undo_of_mem present]
      exact holds.withdraw present
    · rw [holds.undo_of_not_mem present, List.erase_of_not_mem present]
      exact holds

theorem Holds.afterChanges (holds : order.Holds values) (changes : List Change) :
    (order.afterChanges changes).Holds (changes.foldl Change.list values) := by
  induction changes generalizing order values with
  | nil => exact holds
  | cons change changes ih => exact ih (holds.change change)

theorem wanted_change (order : ArrivalOrder) (change : Change) : (order.change change).state.wanted = order.wanted := by
  obtain ⟨kind, value⟩ := change
  cases kind with
  | insert => rfl
  | retract => exact wanted_undo order value

theorem wanted_afterChanges (order : ArrivalOrder) (changes : List Change) :
    (order.afterChanges changes).wanted = order.wanted := by
  induction changes generalizing order with
  | nil => rfl
  | cons change changes ih => exact (ih (order.change change).state).trans (wanted_change order change)

def queued (order : ArrivalOrder) : List (Nat × Value) :=
  order.copies.toList.flatMap fun (value, queue) => queue.map (·, value)

structure Queues (order : ArrivalOrder) : Prop where
  nonempty : ∀ (value : Value) (queue : List Nat), order.copies[value]? = some queue → queue ≠ []
  ascending : ∀ (value : Value) (queue : List Nat), order.copies[value]? = some queue → queue.Pairwise (· < ·)
  arrived : order.queued.Perm order.arrivals.toList
  once : (order.queued.map (·.1)).Nodup
  below : ∀ entry ∈ order.queued, entry.1 < order.next

theorem mem_queued {number : Nat} :
    (number, value) ∈ order.queued ↔ ∃ queue, order.copies[value]? = some queue ∧ number ∈ queue := by
  simp only [queued, List.mem_flatMap, List.mem_map, Prod.exists, Std.TreeMap.mem_toList_iff_getElem?_eq_some]
  constructor
  · rintro ⟨held, queue, found, number, inside, same⟩
    cases same
    exact ⟨queue, found, inside⟩
  · rintro ⟨queue, found, inside⟩
    exact ⟨value, queue, found, number, inside, rfl⟩

theorem mem_numbersOf {number : Nat} {entries : List (Nat × Value)} :
    number ∈ numbersOf value entries ↔ (number, value) ∈ entries := by
  simp [numbersOf]

theorem numbersOf_ascending (arrivals : Std.TreeMap Nat Value) (value : Value) :
    (numbersOf value arrivals.toList).Pairwise (· < ·) := by
  rw [numbersOf, List.pairwise_map]
  exact (toList_before arrivals).filter _

theorem Holds.queue_iff (holds : order.Holds values) {queue : List Nat} :
    order.copies[value]? = some queue ↔ value ∈ values ∧ queue = numbersOf value order.arrivals.toList := by
  rw [holds.copies]
  split
  next present => simp [present, eq_comm]
  next absent => simp [absent]

theorem Holds.mem_queued_iff (holds : order.Holds values) (entry : Nat × Value) :
    entry ∈ order.queued ↔ entry ∈ order.arrivals.toList := by
  obtain ⟨number, value⟩ := entry
  simp only [mem_queued, holds.queue_iff]
  constructor
  · rintro ⟨_, ⟨_, rfl⟩, inside⟩
    exact mem_numbersOf.mp inside
  · intro arrived
    have present : value ∈ values := holds.list ▸ List.mem_map.mpr ⟨_, arrived, rfl⟩
    exact ⟨_, ⟨present, rfl⟩, mem_numbersOf.mpr arrived⟩

theorem nodup_queued
    (ascending : ∀ (value : Value) (queue : List Nat), order.copies[value]? = some queue → queue.Pairwise (· < ·)) :
    order.queued.Nodup := by
  refine List.nodup_flatMap.mpr ⟨?_, ?_⟩
  · rintro ⟨value, queue⟩ member
    have found := Std.TreeMap.mem_toList_iff_getElem?_eq_some.mp member
    have distinct : queue.Nodup := (ascending value queue found).imp Nat.ne_of_lt
    exact distinct.map fun a b same => (Prod.mk.inj same).1
  · refine (Std.TreeMap.distinct_keys_toList (t := order.copies)).imp ?_
    rintro ⟨value, queue⟩ ⟨other, others⟩ apart entry here there
    obtain ⟨_, _, rfl⟩ := List.mem_map.mp here
    obtain ⟨_, _, same⟩ := List.mem_map.mp there
    obtain rfl : other = value := (Prod.mk.inj same).2
    exact apart Std.ReflCmp.compare_self

theorem Holds.queues (holds : order.Holds values) : order.Queues := by
  have ascending (value : Value) (queue : List Nat) (found : order.copies[value]? = some queue) :
      queue.Pairwise (· < ·) := by
    rw [(holds.queue_iff.mp found).2]
    exact numbersOf_ascending order.arrivals value
  have arrived : order.queued.Perm order.arrivals.toList :=
    (List.perm_ext_iff_of_nodup (nodup_queued ascending) (.of_map _ (nodup_numbers order.arrivals))).mpr
      holds.mem_queued_iff
  refine ⟨?_, ascending, arrived, ?_, ?_⟩
  · intro value queue found
    obtain ⟨present, rfl⟩ := holds.queue_iff.mp found
    rw [← holds.list] at present
    rw [Ne, numbersOf_eq_nil_iff, not_not]
    exact present
  · exact (arrived.map (·.1)).nodup_iff.mpr (nodup_numbers order.arrivals)
  · intro entry member
    exact holds.below entry ((holds.mem_queued_iff entry).mp member)

-- After any changes, an order of arrival is the list that they make, in the order of its numbers. It gives back exactly the
-- values that are in the list and refuses the others, which change nothing. Its aggregate is the end of the list that it is
-- kept for.
theorem refines_list (wanted : End) (changes : List Change) :
    let order := ({ wanted } : ArrivalOrder).afterChanges changes
    let values := changes.foldl Change.list []
    order.arrivals.toList.map (·.2) = values ∧ order.Queues ∧
      (∀ value, order.undo value =
        if value ∈ values then .done (order.withdraw value) () else .failed order (.neverSaw wanted.aggregate value)) ∧
      order.current = match wanted, values with
        | _, [] => .error (.noValues wanted.aggregate)
        | .first, first :: _ => .ok first
        | .last, first :: rest => .ok ((first :: rest).getLast (List.cons_ne_nil _ _)) := by
  intro order values
  have holds : order.Holds values := (holds_empty wanted).afterChanges changes
  have kept : order.wanted = wanted := wanted_afterChanges { wanted } changes
  refine ⟨holds.list, holds.queues, ?_, ?_⟩
  · intro value
    split
    next present => exact holds.undo_of_mem present
    next absent => rw [holds.undo_of_not_mem absent, kept]
  · have current := holds.current
    rw [kept] at current
    rw [current]
    cases wanted <;> cases values <;> rfl

end ArrivalOrder

end DeltaQuery
