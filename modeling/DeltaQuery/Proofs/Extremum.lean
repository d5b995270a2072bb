import DeltaQuery.Accumulator.Extremum
import DeltaQuery.Proofs.LiveValues

namespace DeltaQuery

variable {extreme : Extreme} {values : List Value} {value : Value}

namespace Extreme

def AsGood : Extreme → Value → Value → Prop
  | .min, best, other => (Value.compare best other).isLE
  | .max, best, other => (Value.compare other best).isLE

theorem prefers_eq_false_iff (extreme : Extreme) (other best : Value) :
    extreme.prefers other best = false ↔ extreme.AsGood best other := by
  cases extreme with
  | min =>
    change (Value.compare other best == .lt) = false ↔ (Value.compare best other).isLE
    rw [Value.compare_swap]
    cases Value.compare best other <;> decide
  | max =>
    change (Value.compare other best == .gt) = false ↔ (Value.compare other best).isLE
    cases Value.compare other best <;> decide

theorem asGood_of_prefers {other best : Value} (prefers : extreme.prefers other best = true) :
    extreme.AsGood other best := by
  cases extreme with
  | min =>
    have less : Value.compare other best = .lt := eq_of_beq prefers
    change (Value.compare other best).isLE
    rw [less]
    rfl
  | max =>
    have greater : Value.compare other best = .gt := eq_of_beq prefers
    change (Value.compare best other).isLE
    rw [Value.compare_swap, greater]
    rfl

theorem AsGood.refl (extreme : Extreme) (value : Value) : extreme.AsGood value value := by
  cases extreme <;> exact Std.ReflCmp.isLE_rfl

theorem AsGood.trans {a b c : Value} (ab : extreme.AsGood a b) (bc : extreme.AsGood b c) : extreme.AsGood a c := by
  cases extreme with
  | min => exact Value.compare_trans a b c ab bc
  | max => exact Value.compare_trans c b a bc ab

theorem AsGood.antisymm {a b : Value} (ab : extreme.AsGood a b) (ba : extreme.AsGood b a) : a = b := by
  cases extreme with
  | min => exact (Value.compare_eq_iff a b).mp (Std.OrientedCmp.isLE_antisymm ab ba)
  | max => exact (Value.compare_eq_iff a b).mp (Std.OrientedCmp.isLE_antisymm ba ab)

def Best (extreme : Extreme) (values : List Value) (best : Value) : Prop :=
  best ∈ values ∧ ∀ other ∈ values, extreme.AsGood best other

theorem Best.unique {a b : Value} (left : extreme.Best values a) (right : extreme.Best values b) : a = b :=
  (left.2 b right.1).antisymm (right.2 a left.1)

theorem Best.perm {other : List Value} {best : Value} (perm : values.Perm other) (isBest : extreme.Best values best) :
    extreme.Best other best :=
  ⟨perm.mem_iff.mp isBest.1, fun w member => isBest.2 w (perm.mem_iff.mpr member)⟩

-- The least of a list stands first when it is sorted, and the greatest last.
def atEnd : Extreme → List Value → Option Value
  | .min, sorted => sorted.head?
  | .max, sorted => sorted.getLast?

theorem best_atEnd {best : Value} (found : extreme.atEnd (Value.sort values) = some best) :
    extreme.Best values best := by
  have sorted := Value.sort_pairwise values
  cases extreme with
  | min =>
    obtain ⟨rest, split⟩ := List.head?_eq_some_iff.mp found
    refine ⟨(Value.sort_perm values).mem_iff.mp (by simp [split]), ?_⟩
    intro other member
    rw [split, List.pairwise_cons] at sorted
    rcases List.mem_cons.mp (split ▸ (Value.sort_perm values).mem_iff.mpr member) with rfl | later
    · exact AsGood.refl .min _
    · exact sorted.1 other later
  | max =>
    obtain ⟨rest, split⟩ := List.getLast?_eq_some_iff.mp found
    refine ⟨(Value.sort_perm values).mem_iff.mp (by simp [split]), ?_⟩
    intro other member
    rw [split, List.pairwise_append] at sorted
    rcases List.mem_append.mp (split ▸ (Value.sort_perm values).mem_iff.mpr member) with earlier | last
    · exact sorted.2.2 other earlier best (List.mem_singleton_self _)
    · rw [List.mem_singleton.mp last]
      exact AsGood.refl .max _

@[simp] theorem atEnd_nil (extreme : Extreme) : extreme.atEnd (Value.sort []) = none := by
  cases extreme <;> simp [atEnd, Value.sort]

theorem atEnd_eq_none_iff : extreme.atEnd (Value.sort values) = none ↔ values = [] := by
  constructor
  · intro none
    have empty : Value.sort values = [] := by
      cases extreme with
      | min => exact List.head?_eq_none_iff.mp none
      | max => exact List.getLast?_eq_none_iff.mp none
    have length : (Value.sort values).length = values.length := List.length_mergeSort values
    rw [← List.length_eq_zero_iff, ← length, empty]
    rfl
  · rintro rfl
    exact atEnd_nil extreme

theorem Best.atEnd {best : Value} (isBest : extreme.Best values best) :
    extreme.atEnd (Value.sort values) = some best := by
  cases found : extreme.atEnd (Value.sort values) with
  | some other => rw [(best_atEnd found).unique isBest]
  | none =>
    have member := isBest.1
    rw [atEnd_eq_none_iff.mp found] at member
    cases member

theorem atEnd_eq_some_iff {best : Value} :
    extreme.atEnd (Value.sort values) = some best ↔ extreme.Best values best := ⟨best_atEnd, Best.atEnd⟩

end Extreme

namespace OrderedExtremum

variable {held : OrderedExtremum}

theorem incorporate_holds (holds : CopiesOf held.counts values) (value : Value) :
    CopiesOf (held.incorporate value).counts (values ++ [value]) := holds.insert value

theorem undo_follows (held : OrderedExtremum) (value : Value) :
    (held.undo value).Follows (held.checkUndo value) held := by
  unfold undo checkUndo
  rw [Std.TreeMap.contains_eq_isSome_getElem?]
  cases held.counts[value]? with
  | none => exact Attempt.follows_failed held _
  | some copies => exact Attempt.follows_done held _ ()

theorem undo_holds (holds : CopiesOf held.counts values) (accepted : held.checkUndo value = .ok ()) :
    value ∈ values ∧ CopiesOf (held.undo value).state.counts (values.erase value) := by
  have present : value ∈ values := by
    by_contra absent
    unfold checkUndo at accepted
    rw [if_neg fun contained => absent ((holds.contains_iff value).mp contained)] at accepted
    cases accepted
  have entry := holds value
  rw [if_pos present] at entry
  refine ⟨present, ?_⟩
  unfold undo
  rw [entry]
  exact holds.erase value

theorem extreme_undo (held : OrderedExtremum) (value : Value) : (held.undo value).state.extreme = held.extreme := by
  unfold undo
  split <;> rfl

theorem checkUndo_of_mem (holds : CopiesOf held.counts values) (present : value ∈ values) :
    held.checkUndo value = .ok () := if_pos ((holds.contains_iff value).mpr present)

theorem best?_eq (holds : CopiesOf held.counts values) : held.best? = held.extreme.atEnd (Value.sort values) := by
  have member (k : Value) : k ∈ held.counts ↔ k ∈ values := by
    rw [← Std.TreeMap.contains_iff_mem, holds.contains_iff]
  apply Option.ext
  intro best
  rw [Extreme.atEnd_eq_some_iff]
  unfold best? Extreme.Best
  cases held.extreme with
  | min => simp only [Std.TreeMap.minKey?_eq_some_iff_mem_and_forall, member, Extreme.AsGood]
  | max => simp only [Std.TreeMap.maxKey?_eq_some_iff_mem_and_forall, member, Extreme.AsGood]

end OrderedExtremum

namespace RescanExtremum

variable {held : RescanExtremum}

theorem foldl_better (extreme : Extreme) (values : List Value) (start : Value) :
    ∃ best, values.foldl (better extreme) (some start) = some best ∧ extreme.Best (start :: values) best := by
  induction values generalizing start with
  | nil => exact ⟨start, rfl, by simp, by simp [Extreme.AsGood.refl]⟩
  | cons value values ih =>
    cases prefers : extreme.prefers value start with
    | true =>
      obtain ⟨best, found, member, good⟩ := ih value
      refine ⟨best, by simpa [better, prefers] using found, List.mem_cons_of_mem _ member, ?_⟩
      intro other present
      rcases List.mem_cons.mp present with rfl | later
      · exact (good value List.mem_cons_self).trans (Extreme.asGood_of_prefers prefers)
      · exact good other later
    | false =>
      obtain ⟨best, found, member, good⟩ := ih start
      refine ⟨best, by simpa [better, prefers] using found, ?_, ?_⟩
      · rcases List.mem_cons.mp member with rfl | later
        · exact List.mem_cons_self
        · exact List.mem_cons_of_mem _ (List.mem_cons_of_mem _ later)
      · intro other present
        have first := good start List.mem_cons_self
        rcases List.mem_cons.mp present with rfl | later
        · exact first
        · rcases List.mem_cons.mp later with rfl | last
          · exact first.trans ((extreme.prefers_eq_false_iff _ _).mp prefers)
          · exact good other (List.mem_cons_of_mem _ last)

structure Holds (held : RescanExtremum) (values : List Value) : Prop where
  perm : held.values.Perm values
  best : held.best = held.extreme.atEnd (Value.sort values)

theorem holds_empty (extreme : Extreme) : Holds { extreme } [] :=
  ⟨List.Perm.refl _, (Extreme.atEnd_nil extreme).symm⟩

theorem foldl_better_none (extreme : Extreme) (values : List Value) :
    values.foldl (better extreme) none = extreme.atEnd (Value.sort values) := by
  cases values with
  | nil => exact (Extreme.atEnd_nil extreme).symm
  | cons value values =>
    obtain ⟨best, found, isBest⟩ := foldl_better extreme values value
    rw [isBest.atEnd]
    exact found

theorem Holds.incorporate (holds : held.Holds values) (value : Value) :
    (held.incorporate value).Holds (values ++ [value]) := by
  have perm : (held.values ++ [value]).Perm (values ++ [value]) := holds.perm.append_right [value]
  refine ⟨perm, ?_⟩
  change better held.extreme held.best value = held.extreme.atEnd (Value.sort (values ++ [value]))
  cases old : held.best with
  | none =>
    have empty : values = [] := Extreme.atEnd_eq_none_iff.mp (holds.best.symm.trans old)
    rw [empty]
    exact (foldl_better_none held.extreme [value])
  | some best =>
    have isBest := Extreme.best_atEnd (holds.best.symm.trans old)
    obtain ⟨better_, found, good⟩ := foldl_better held.extreme [value] best
    have whole : held.extreme.Best (values ++ [value]) better_ := by
      refine ⟨?_, ?_⟩
      · rcases List.mem_cons.mp good.1 with rfl | new
        · exact List.mem_append_left _ isBest.1
        · exact List.mem_append_right _ new
      · intro other present
        rcases List.mem_append.mp present with earlier | new
        · exact (good.2 best List.mem_cons_self).trans (isBest.2 other earlier)
        · exact good.2 other (List.mem_cons_of_mem _ new)
    rw [whole.atEnd]
    exact found

theorem swapRemove_perm {place : Nat} (inside : place < values.length) :
    (swapRemove values place).Perm (values.eraseIdx place) := by
  rcases List.eq_nil_or_concat values with rfl | ⟨front, last, rfl⟩
  · cases inside
  · rw [List.concat_eq_append] at inside ⊢
    have removed : swapRemove (front ++ [last]) place = ((front ++ [last]).set place last).dropLast := by
      simp [swapRemove]
    rw [removed, List.set_append, List.eraseIdx_append]
    by_cases earlier : place < front.length
    · rw [if_pos earlier, if_pos earlier, List.dropLast_concat, List.set_eq_take_append_cons_drop, if_pos earlier,
        List.eraseIdx_eq_take_drop_succ]
      exact List.perm_middle.trans (List.perm_append_singleton last _).symm
    · have itself : place - front.length = 0 := by
        simp only [List.length_append, List.length_singleton] at inside
        omega
      simp [if_neg earlier, itself]

-- A value is held where it can be found, and it is the one that is taken out there.
theorem swapRemove_erase {place : Nat} (found : values.idxOf? value = some place) :
    (swapRemove values place).Perm (values.erase value) := by
  obtain ⟨inside, _⟩ := List.idxOf?_eq_some_iff.mp found
  rw [List.erase_eq_eraseIdx, found]
  exact swapRemove_perm inside

theorem undo_follows (held : RescanExtremum) (value : Value) :
    (held.undo value).Follows (held.checkUndo value) held := by
  unfold RescanExtremum.undo RescanExtremum.checkUndo
  cases found : held.values.idxOf? value with
  | none =>
    rw [if_neg (List.idxOf?_eq_none_iff.mp found)]
    exact Attempt.follows_failed held _
  | some place =>
    obtain ⟨inside, rfl, _⟩ := List.idxOf?_eq_some_iff.mp found
    rw [if_pos (List.getElem_mem inside)]
    exact Attempt.follows_done held _ ()

theorem Holds.undo (holds : held.Holds values) (accepted : held.checkUndo value = .ok ()) :
    value ∈ values ∧ (held.undo value).state.Holds (values.erase value) := by
  have present : value ∈ held.values := by
    by_contra absent
    unfold RescanExtremum.checkUndo at accepted
    rw [if_neg absent] at accepted
    cases accepted
  refine ⟨holds.perm.mem_iff.mp present, ?_⟩
  obtain ⟨place, found⟩ := Option.ne_none_iff_exists'.mp fun none => List.idxOf?_eq_none_iff.mp none present
  unfold RescanExtremum.undo
  rw [found]
  have perm := (swapRemove_erase found).trans (holds.perm.erase value)
  refine ⟨perm, ?_⟩
  by_cases wasBest : held.best = some value
  · simp only [Attempt.done_state, wasBest, if_true]
    rw [foldl_better_none]
    apply Option.ext
    intro best
    rw [Extreme.atEnd_eq_some_iff, Extreme.atEnd_eq_some_iff]
    exact ⟨Extreme.Best.perm perm, Extreme.Best.perm perm.symm⟩
  · simp only [Attempt.done_state, wasBest, if_false]
    cases old : held.best with
    | none =>
      have empty : values = [] := Extreme.atEnd_eq_none_iff.mp (holds.best.symm.trans old)
      rw [empty] at holds
      rw [holds.perm.eq_nil] at present
      cases present
    | some best =>
      have isBest := Extreme.best_atEnd (holds.best.symm.trans old)
      have apart : best ≠ value := fun same => wasBest (by rw [old, same])
      have still : held.extreme.Best (values.erase value) best :=
        ⟨(List.mem_erase_of_ne apart).mpr isBest.1, fun other member => isBest.2 other (List.mem_of_mem_erase member)⟩
      exact still.atEnd.symm

theorem extreme_undo (held : RescanExtremum) (value : Value) : (held.undo value).state.extreme = held.extreme := by
  unfold RescanExtremum.undo
  split <;> rfl

theorem Holds.checkUndo (holds : held.Holds values) (present : value ∈ values) : held.checkUndo value = .ok () :=
  if_pos (holds.perm.mem_iff.mpr present)

end RescanExtremum

end DeltaQuery
