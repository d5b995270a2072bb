import DeltaQuery.Proofs.Calls

namespace DeltaQuery

-- While both hold the same values they answer every call alike, and whatever the call was, both hold the same values
-- after it.
structure SameValues (ordered : OrderedExtremum) (rescan : RescanExtremum) (values : List Value) : Prop where
  extreme : ordered.extreme = rescan.extreme
  copies : CopiesOf ordered.counts values
  listed : rescan.Holds values

theorem sameValues_empty (extreme : Extreme) : SameValues { extreme } { extreme } [] :=
  ⟨rfl, CopiesOf.empty, RescanExtremum.holds_empty extreme⟩

namespace SameValues

variable {ordered : OrderedExtremum} {rescan : RescanExtremum} {values : List Value}

theorem current_eq (same : SameValues ordered rescan values) : ordered.current = rescan.current := by
  have best : ordered.best? = rescan.best := by
    rw [OrderedExtremum.best?_eq same.copies, same.listed.best, same.extreme]
  unfold OrderedExtremum.current RescanExtremum.current
  rw [best, same.extreme]

theorem checkUndo_eq (same : SameValues ordered rescan values) (value : Value) :
    ordered.checkUndo value = rescan.checkUndo value := by
  have held : ordered.counts.contains value = true ↔ value ∈ rescan.values :=
    (same.copies.contains_iff value).trans same.listed.perm.mem_iff.symm
  unfold OrderedExtremum.checkUndo RescanExtremum.checkUndo
  simp only [held, same.extreme]

theorem incorporate (same : SameValues ordered rescan values) (value : Value) :
    SameValues (ordered.incorporate value) (rescan.incorporate value) (values ++ [value]) :=
  ⟨same.extreme, OrderedExtremum.incorporate_holds same.copies value, same.listed.incorporate value⟩

theorem undo (same : SameValues ordered rescan values) (value : Value) :
    ∃ left, SameValues (ordered.undo value).state (rescan.undo value).state left := by
  have extreme : (ordered.undo value).state.extreme = (rescan.undo value).state.extreme := by
    rw [ordered.extreme_undo value, rescan.extreme_undo value, same.extreme]
  have checks := same.checkUndo_eq value
  cases check : ordered.checkUndo value with
  | ok =>
    have other := checks.symm.trans check
    exact ⟨values.erase value, extreme, (OrderedExtremum.undo_holds same.copies check).2, (same.listed.undo other).2⟩
  | error cause =>
    have other := checks.symm.trans check
    rw [(ordered.undo_follows value).unchanged cause check, (rescan.undo_follows value).unchanged cause other]
    exact ⟨values, same⟩

end SameValues

namespace Accumulator

inductive Alike : Accumulator → Accumulator → Prop
  | extremum {ordered rescan values} (same : SameValues ordered rescan values) : Alike (.ordered ordered) (.rescan rescan)

variable {left right : Accumulator}

theorem Alike.current_eq (alike : Alike left right) : left.current = right.current := by
  cases alike with
  | extremum same => exact same.current_eq

theorem Alike.call (alike : Alike left right) (call : Call) :
    (left.call call).result = (right.call call).result ∧ Alike (left.call call).state (right.call call).state := by
  cases alike with
  | @extremum ordered rescan values same =>
    cases call with
    | incorporate value => exact ⟨rfl, .extremum (same.incorporate value)⟩
    | undo value =>
      obtain ⟨left, same'⟩ := same.undo value
      refine ⟨?_, .extremum same'⟩
      change (ordered.undo value).result = (rescan.undo value).result
      rw [(ordered.undo_follows value).result, (rescan.undo_follows value).result, same.checkUndo_eq value]
    | checkIncorporate value => exact ⟨rfl, .extremum same⟩
    | checkUndo value => exact ⟨same.checkUndo_eq value, .extremum same⟩

theorem Alike.replies_eq (alike : Alike left right) (calls : List Call) : left.replies calls = right.replies calls := by
  induction calls generalizing left right with
  | nil => rfl
  | cons call calls ih =>
    obtain ⟨result, after⟩ := alike.call call
    simp only [replies, result, after.current_eq, ih after]

theorem alike_fresh (extreme : Extreme) : Alike (extremum extreme .ordered) (extremum extreme .rescan) :=
  .extremum (sameValues_empty extreme)

-- Started over no values, both give the same aggregate, and then the same reply and the same aggregate after each
-- call, those that are refused among them.
theorem extremum_strategies_indistinguishable (extreme : Extreme) (calls : List Call) :
    (extremum extreme .ordered).current = (extremum extreme .rescan).current ∧
      (extremum extreme .ordered).replies calls = (extremum extreme .rescan).replies calls :=
  ⟨(alike_fresh extreme).current_eq, (alike_fresh extreme).replies_eq calls⟩

end Accumulator

end DeltaQuery
