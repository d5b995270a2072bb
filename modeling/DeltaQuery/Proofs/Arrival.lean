import DeltaQuery.Accumulator.Arrival
import DeltaQuery.Proofs.ValueOrder
import Mathlib.Data.List.Sort

namespace DeltaQuery.ArrivalOrder

def numbersOf (value : Value) (entries : List (Nat × Value)) : List Nat :=
  (entries.filter fun entry => entry.2 = value).map (·.1)

theorem numbersOf_eq_nil_iff (value : Value) (entries : List (Nat × Value)) :
    numbersOf value entries = [] ↔ value ∉ entries.map (·.2) := by
  simp only [numbersOf, List.map_eq_nil_iff, List.filter_eq_nil_iff, List.mem_map, decide_eq_true_eq, not_exists,
    not_and]

-- Taking out the oldest copy of a value erases the first equal element and shortens the list of its numbers.
theorem withoutOldest {entries : List (Nat × Value)} (distinct : (entries.map (·.1)).Nodup) {value : Value}
    {oldest : Nat} {newer : List Nat} (numbers : numbersOf value entries = oldest :: newer) :
    ((entries.filter fun entry => entry.1 ≠ oldest).map (·.2)) = (entries.map (·.2)).erase value ∧
      ∀ other, numbersOf other (entries.filter fun entry => entry.1 ≠ oldest) =
        if other = value then newer else numbersOf other entries := by
  induction entries with
  | nil => cases numbers
  | cons entry entries ih =>
    obtain ⟨number, held⟩ := entry
    obtain ⟨fresh, distinct⟩ := List.nodup_cons.mp distinct
    by_cases same : held = value
    · subst same
      have first : number = oldest ∧ numbersOf held entries = newer := by simpa [numbersOf] using numbers
      obtain ⟨rfl, rest⟩ := first
      have kept : (entries.filter fun entry => entry.1 ≠ number) = entries := by
        rw [List.filter_eq_self]
        intro entry member
        have apart : entry.1 ≠ number := fun equal => fresh (List.mem_map.mpr ⟨entry, member, equal⟩)
        simpa using apart
      have skipped : (((number, held) :: entries).filter fun entry => entry.1 ≠ number) = entries := by
        rw [List.filter_cons_of_neg (by simp), kept]
      rw [skipped]
      refine ⟨by simp, ?_⟩
      intro other
      by_cases equal : other = held
      · rw [if_pos equal, equal, rest]
      · simp [numbersOf, equal, Ne.symm equal]
    · have later : numbersOf value entries = oldest :: newer := by simpa [numbersOf, same] using numbers
      have apart : number ≠ oldest := by
        rintro rfl
        have member : number ∈ numbersOf value entries := by simp [later]
        obtain ⟨entry, chosen, equal⟩ := List.mem_map.mp member
        exact fresh (List.mem_map.mpr ⟨entry, List.mem_of_mem_filter chosen, equal⟩)
      obtain ⟨values, numbersLeft⟩ := ih distinct later
      have kept : (((number, held) :: entries).filter fun entry => entry.1 ≠ oldest) =
          (number, held) :: entries.filter fun entry => entry.1 ≠ oldest := List.filter_cons_of_pos (by simpa using apart)
      rw [kept]
      refine ⟨?_, ?_⟩
      · rw [List.map_cons, values, List.map_cons, List.erase_cons_tail (by simpa using same)]
      · intro other
        by_cases equal : held = other
        · subst equal
          simpa [numbersOf, same] using numbersLeft held
        · simpa [numbersOf, equal] using numbersLeft other

variable {arrivals : Std.TreeMap Nat Value}

def Before (a b : Nat × Value) : Prop := a.1 < b.1

instance : Std.Irrefl Before := ⟨fun a => Nat.lt_irrefl a.1⟩
instance : Std.Antisymm Before := ⟨fun _ _ ab ba => absurd ba (Nat.lt_asymm ab)⟩

theorem toList_before (arrivals : Std.TreeMap Nat Value) : arrivals.toList.Pairwise Before :=
  arrivals.ordered_keys_toList.imp fun less => Nat.compare_eq_lt.mp less

theorem mem_toList {number : Nat} {value : Value} :
    (number, value) ∈ arrivals.toList ↔ arrivals[number]? = some value :=
  Std.TreeMap.mem_toList_iff_getElem?_eq_some

theorem nodup_numbers (arrivals : Std.TreeMap Nat Value) : (arrivals.toList.map (·.1)).Nodup := by
  rw [List.Nodup, List.pairwise_map]
  exact (toList_before arrivals).imp Nat.ne_of_lt

theorem toList_insert_last {next : Nat} (below : ∀ entry ∈ arrivals.toList, entry.1 < next) (value : Value) :
    (arrivals.insert next value).toList = arrivals.toList ++ [(next, value)] := by
  refine (toList_before _).eq_of_mem_iff ?_ ?_
  · refine List.pairwise_append.mpr ⟨toList_before _, List.pairwise_singleton _ _, ?_⟩
    intro entry member last single
    rw [List.mem_singleton.mp single]
    exact below entry member
  · intro entry
    obtain ⟨number, held⟩ := entry
    rw [mem_toList, Std.TreeMap.getElem?_insert, List.mem_append, List.mem_singleton, mem_toList]
    by_cases same : next = number
    · subst same
      have absent : arrivals[next]? ≠ some held := fun present =>
        Nat.lt_irrefl next (below (next, held) (mem_toList.mpr present))
      simp [absent, eq_comm]
    · simp [same, Ne.symm same]

theorem toList_erase (arrivals : Std.TreeMap Nat Value) (number : Nat) :
    (arrivals.erase number).toList = arrivals.toList.filter fun entry => entry.1 ≠ number := by
  refine (toList_before _).eq_of_mem_iff ((toList_before _).filter _) ?_
  intro entry
  obtain ⟨other, held⟩ := entry
  rw [mem_toList, Std.TreeMap.getElem?_erase, List.mem_filter, mem_toList]
  by_cases same : number = other
  · simp [same]
  · simp [same, Ne.symm same]

variable {order : ArrivalOrder} {values : List Value} {value : Value}

-- The numbers of the copies are kept beside the values. That they are the places of the copies in the list is what
-- every change has to see to.
structure Holds (order : ArrivalOrder) (values : List Value) : Prop where
  list : order.toList = values
  below : ∀ entry ∈ order.arrivals.toList, entry.1 < order.next
  copies : ∀ value, order.copies[value]? =
    if value ∈ values then some (numbersOf value order.arrivals.toList) else none

theorem holds_empty (wanted : End) : Holds { wanted } [] where
  list := rfl
  below := fun _ member => nomatch member
  copies := by simp

theorem Holds.getD (holds : order.Holds values) (value : Value) :
    order.copies.getD value [] = numbersOf value order.arrivals.toList := by
  rw [Std.TreeMap.getD_eq_getD_getElem?, holds.copies]
  split
  · rfl
  · rename_i absent
    rw [← holds.list] at absent
    exact ((numbersOf_eq_nil_iff _ _).mpr absent).symm

theorem Holds.contains_iff (holds : order.Holds values) (value : Value) :
    order.copies.contains value = true ↔ value ∈ values := by
  rw [Std.TreeMap.contains_eq_isSome_getElem?, holds.copies]
  split <;> simp [*]

theorem Holds.checkUndo_of_mem (holds : order.Holds values) (present : value ∈ values) :
    order.checkUndo value = .ok () := if_pos ((holds.contains_iff value).mpr present)

theorem Holds.incorporate (holds : order.Holds values) (value : Value) :
    (order.incorporate value).Holds (values ++ [value]) := by
  have entries : (order.incorporate value).arrivals.toList = order.arrivals.toList ++ [(order.next, value)] :=
    toList_insert_last holds.below value
  refine ⟨?_, ?_, ?_⟩
  · rw [toList, entries, List.map_append]
    exact congrArg (· ++ [value]) holds.list
  · intro entry member
    rw [entries] at member
    change entry.1 < order.next + 1
    rcases List.mem_append.mp member with old | new
    · exact Nat.lt_succ_of_lt (holds.below entry old)
    · rw [List.mem_singleton.mp new]
      exact Nat.lt_succ_self _
  · intro other
    rw [entries]
    change (order.copies.insert value (order.copies.getD value [] ++ [order.next]))[other]? = _
    rw [Std.TreeMap.getElem?_insert, holds.getD]
    by_cases same : value = other
    · subst same
      simp [Std.ReflCmp.compare_self, numbersOf]
    · have apart : Value.compare value other ≠ .eq := fun equal => same ((Value.compare_eq_iff _ _).mp equal)
      rw [if_neg apart, holds.copies]
      simp [numbersOf, same, Ne.symm same]

theorem undo_follows (order : ArrivalOrder) (value : Value) :
    (order.undo value).Follows (order.checkUndo value) order := by
  unfold undo
  cases order.checkUndo value with
  | error cause => exact Attempt.follows_failed order cause
  | ok => exact Attempt.follows_done order (order.withdraw value) ()

theorem undo_ok (accepted : order.checkUndo value = .ok ()) : (order.undo value).state = order.withdraw value := by
  unfold undo
  rw [accepted]
  rfl

theorem wanted_undo (order : ArrivalOrder) (value : Value) : (order.undo value).state.wanted = order.wanted := by
  unfold undo
  cases order.checkUndo value with
  | error cause => rfl
  | ok =>
    change (order.withdraw value).wanted = order.wanted
    unfold ArrivalOrder.withdraw
    split <;> rfl

theorem Holds.withdraw (holds : order.Holds values) (present : value ∈ values) :
    (order.withdraw value).Holds (values.erase value) := by
  cases numbers : numbersOf value order.arrivals.toList with
  | nil =>
    rw [numbersOf_eq_nil_iff] at numbers
    rw [← holds.list] at present
    exact absurd present numbers
  | cons oldest newer =>
    obtain ⟨rest, numbersLeft⟩ := withoutOldest (nodup_numbers order.arrivals) numbers
    have entries : (order.withdraw value).arrivals.toList =
        order.arrivals.toList.filter fun entry => entry.1 ≠ oldest := by
      rw [← toList_erase, ArrivalOrder.withdraw, holds.getD, numbers]
    have left : (order.withdraw value).toList = values.erase value := by
      rw [toList, entries, rest]
      exact congrArg (·.erase value) holds.list
    have next : (order.withdraw value).next = order.next := by
      rw [ArrivalOrder.withdraw, holds.getD, numbers]
    have copies : (order.withdraw value).copies =
        if newer.isEmpty then order.copies.erase value else order.copies.insert value newer := by
      rw [ArrivalOrder.withdraw, holds.getD, numbers]
    refine ⟨left, ?_, ?_⟩
    · rw [entries, next]
      intro entry member
      exact holds.below entry (List.mem_of_mem_filter member)
    · intro other
      have membership : other ∈ values.erase value ↔ numbersOf other (order.withdraw value).arrivals.toList ≠ [] := by
        rw [Ne, numbersOf_eq_nil_iff, not_not, ← left]
        rfl
      simp only [membership, copies]
      rw [entries, numbersLeft other]
      by_cases same : other = value
      · subst same
        rw [if_pos rfl]
        cases newer with
        | nil => simp [Std.ReflCmp.compare_self]
        | cons => simp [Std.ReflCmp.compare_self]
      · have apart : Value.compare value other ≠ .eq := fun equal => same ((Value.compare_eq_iff _ _).mp equal).symm
        have before := holds.copies other
        rw [if_neg same]
        have kept : numbersOf other order.arrivals.toList ≠ [] ↔ other ∈ values := by
          rw [Ne, numbersOf_eq_nil_iff, not_not, ← holds.list]
          rfl
        simp only [kept]
        split
        · rw [Std.TreeMap.getElem?_erase, if_neg apart, before]
        · rw [Std.TreeMap.getElem?_insert, if_neg apart, before]

theorem Holds.undo (holds : order.Holds values) (accepted : order.checkUndo value = .ok ()) :
    value ∈ values ∧ (order.undo value).state.Holds (values.erase value) := by
  have present : value ∈ values := by
    by_contra absent
    unfold checkUndo at accepted
    rw [if_neg fun contained => absent ((holds.contains_iff value).mp contained)] at accepted
    cases accepted
  rw [undo_ok accepted]
  exact ⟨present, holds.withdraw present⟩

def atEnd : End → List Value → Option Value
  | .first, values => values.head?
  | .last, values => values.getLast?

theorem number?_eq (order : ArrivalOrder) :
    order.number? = match order.wanted with
      | .first => order.arrivals.toList.head?.map (·.1)
      | .last => order.arrivals.toList.getLast?.map (·.1) := by
  unfold number?
  cases order.wanted with
  | first => simp only [Std.TreeMap.minKey?_eq_head?_keys, ← Std.TreeMap.map_fst_toList_eq_keys, List.head?_map]
  | last => simp only [Std.TreeMap.maxKey?_eq_getLast?_keys, ← Std.TreeMap.map_fst_toList_eq_keys, List.getLast?_map]

private theorem lookup_of_mem {entry : Option (Nat × Value)} (member : ∀ e, entry = some e → e ∈ arrivals.toList) :
    (entry.map (·.1)).bind (arrivals[·]?) = entry.map (·.2) := by
  cases entry with
  | none => rfl
  | some entry => exact mem_toList.mp (member entry rfl)

theorem Holds.current (holds : order.Holds values) :
    order.current = match atEnd order.wanted values with
      | some value => .ok value
      | none => .error (.noValues order.wanted.aggregate) := by
  have found : order.number?.bind (order.arrivals[·]?) = atEnd order.wanted values := by
    rw [number?_eq, ← holds.list, toList]
    cases order.wanted with
    | first =>
      simp only [atEnd, List.head?_map]
      exact lookup_of_mem fun entry first => List.mem_of_head? first
    | last =>
      simp only [atEnd, List.getLast?_map]
      exact lookup_of_mem fun entry last => List.mem_of_getLast? last
  unfold ArrivalOrder.current
  cases wanted : atEnd order.wanted values with
  | none => simp only [found, wanted]
  | some value => simp only [found, wanted]

end DeltaQuery.ArrivalOrder
