import DeltaQuery.Proofs.Formula
import DeltaQuery.Proofs.Table
import Mathlib.Algebra.Order.Group.Multiset

namespace DeltaQuery

variable {records : List Record}

abbrev Columns := List (String × Value)

-- No columns are retracted more often than they are inserted.
def Balanced (records : List Record) : Prop :=
  ∀ columns : Columns, records.count ⟨columns, .retract⟩ ≤ records.count ⟨columns, .insert⟩

def Consistent (records : List Record) : Prop := ∀ before, before <+: records → Balanced before

def columnsOf (kind : EventKind) (records : List Record) : Multiset Columns :=
  ((records.filter fun record => record.kind = kind).map (·.columns) : List Columns)

@[simp] theorem columnsOf_append (kind : EventKind) (left right : List Record) :
    columnsOf kind (left ++ right) = columnsOf kind left + columnsOf kind right := by
  simp [columnsOf]

theorem columnsOf_cons (kind : EventKind) (record : Record) (records : List Record) :
    columnsOf kind (record :: records) =
      if record.kind = kind then record.columns ::ₘ columnsOf kind records else columnsOf kind records := by
  unfold columnsOf
  by_cases same : record.kind = kind <;> simp [same]

theorem count_columnsOf (kind : EventKind) (records : List Record) (columns : Columns) :
    (columnsOf kind records).count columns = records.count ⟨columns, kind⟩ := by
  induction records with
  | nil => rfl
  | cons record records ih =>
    obtain ⟨held, recordKind⟩ := record
    rw [columnsOf_cons, List.count_cons, ← ih]
    by_cases sameKind : recordKind = kind
    · subst sameKind
      rw [if_pos rfl, Multiset.count_cons]
      by_cases same : columns = held
      · simp [same]
      · simp [same, Ne.symm same]
    · rw [if_neg sameKind]
      simp [sameKind]

theorem balanced_iff_le : Balanced records ↔ columnsOf .retract records ≤ columnsOf .insert records := by
  rw [Multiset.le_iff_count]
  simp only [count_columnsOf]
  rfl

theorem balanced_nil : Balanced [] := fun _ => Nat.le_refl _

theorem Balanced.append {left right : List Record} (leftBalanced : Balanced left) (rightBalanced : Balanced right) :
    Balanced (left ++ right) := by
  rw [balanced_iff_le] at *
  rw [columnsOf_append, columnsOf_append]
  exact add_le_add leftBalanced rightBalanced

theorem Balanced.perm {other : List Record} (balanced : Balanced records) (perm : records.Perm other) :
    Balanced other := by
  intro columns
  rw [← perm.count_eq, ← perm.count_eq]
  exact balanced columns

def through (f : Columns → Option Columns) (records : List Record) : List Record :=
  records.filterMap fun record => (f record.columns).map (⟨·, record.kind⟩)

theorem through_append (f : Columns → Option Columns) (left right : List Record) :
    through f (left ++ right) = through f left ++ through f right := List.filterMap_append

theorem columnsOf_through (f : Columns → Option Columns) (kind : EventKind) (records : List Record) :
    columnsOf kind (through f records) = (columnsOf kind records).filterMap f := by
  unfold through
  induction records with
  | nil => rfl
  | cons record records ih =>
    rw [List.filterMap_cons, columnsOf_cons]
    cases changed : f record.columns with
    | none =>
      rw [Option.map_none]
      dsimp only
      by_cases sameKind : record.kind = kind
      · rw [if_pos sameKind, Multiset.filterMap_cons_none _ _ changed, ih]
      · rw [if_neg sameKind, ih]
    | some columns =>
      rw [Option.map_some]
      dsimp only
      rw [columnsOf_cons]
      by_cases sameKind : record.kind = kind
      · rw [if_pos sameKind, if_pos sameKind, Multiset.filterMap_cons_some _ _ _ changed, ih]
      · rw [if_neg sameKind, if_neg sameKind, ih]

theorem Balanced.through (balanced : Balanced records) (f : Columns → Option Columns) :
    Balanced (through f records) := by
  rw [balanced_iff_le] at *
  rw [columnsOf_through, columnsOf_through]
  exact Multiset.filterMap_le_filterMap f balanced

theorem Balanced.countP_le (balanced : Balanced records) (p : Columns → Bool) :
    records.countP (fun record => p record.columns ∧ record.kind = .retract) ≤
      records.countP (fun record => p record.columns ∧ record.kind = .insert) := by
  have counted (kind : EventKind) : records.countP (fun record => p record.columns ∧ record.kind = kind) =
      (columnsOf kind records).countP (p · = true) := by
    unfold columnsOf
    rw [Multiset.coe_countP, List.countP_map, List.countP_filter]
    refine List.countP_congr ?_
    intro record _
    simp
  rw [counted, counted]
  exact Multiset.countP_le_of_le _ (balanced_iff_le.mp balanced)

theorem consistent_nil : Consistent [] := by
  intro before isPrefix
  rw [List.prefix_nil.mp isPrefix]
  exact balanced_nil

theorem Consistent.snoc {record : Record} (consistent : Consistent records) (balanced : Balanced (records ++ [record])) :
    Consistent (records ++ [record]) := by
  intro before isPrefix
  rcases List.prefix_concat_iff.mp (by simpa using isPrefix) with whole | earlier
  · rw [whole]
    simpa using balanced
  · exact consistent before earlier

end DeltaQuery
