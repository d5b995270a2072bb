import DeltaQuery.Aggregate
import DeltaQuery.Integer
import DeltaQuery.Proofs.ValueOrder
import DeltaQuery.Record
import Mathlib.Algebra.BigOperators.Group.List.Basic
import Mathlib.Algebra.Ring.Int.Defs
import Mathlib.Data.List.Dedup

namespace DeltaQuery

abbrev Change := EventKind × Value

namespace Value

def isFloat : Value → Bool
  | .float _ => true
  | _ => false

def integerPart : Value → Int
  | .int i => i.toInt
  | _ => 0

end Value

def integerTotal (values : List Value) : Int := (values.map Value.integerPart).sum

-- The values held, the oldest first, and the running total of the floats among them.
structure Ledger where
  held : List Value := []
  floats : Binary64 := .zero false

namespace Ledger

def floatsWith (floats : Binary64) : Value → Binary64
  | .float x => floats + x
  | _ => floats

-- The total does not keep the rounding of floats that have all left.
def floatsWithout (held : List Value) (floats : Binary64) : Value → Binary64
  | .float x => if held.any Value.isFloat then floats - x else .zero false
  | _ => floats

def take (ledger : Ledger) : Change → Ledger
  | (.insert, value) => ⟨ledger.held ++ [value], floatsWith ledger.floats value⟩
  | (.retract, value) => ⟨ledger.held.erase value, floatsWithout (ledger.held.erase value) ledger.floats value⟩

end Ledger

-- What a column holds, and what it holds when every value counts once.
structure Account where
  all : Ledger := {}
  once : Ledger := {}

namespace Account

def passes (account : Account) : Change → Bool
  | (.insert, value) => account.all.held.count value == 0
  | (.retract, value) => account.all.held.count value == 1

def take (account : Account) (change : Change) : Account :=
  { all := account.all.take change
    once := if account.passes change then account.once.take change else account.once }

def ofChanges (changes : List Change) : Account := changes.foldl take {}

end Account

namespace Aggregate

def sumOf (floats : Binary64) (values : List Value) : Option Value :=
  if values.isEmpty then some .null
  else if values.any Value.isFloat then some (.float (Binary64.ofInt (integerTotal values) + floats))
  else (integer? (integerTotal values)).map .int

def averageOf (floats : Binary64) (values : List Value) : Option Value :=
  if values.isEmpty then some .null
  else
    let total := Binary64.ofInt (integerTotal values)
    let total := if values.any Value.isFloat then total + floats else total
    some (.float (total / Binary64.ofInt values.length))

def countOf (values : List Value) : Value := .int (Int64.ofNat values.length)

-- NULL if there is nothing to aggregate, and none if an integer sum has no 64-bit form. The floats in a sum are
-- rounded at each change, so their total is kept beside the list and is no function of it.
def recomputed (account : Account) : Aggregate → Option Value
  | .avg => averageOf account.all.floats account.all.held
  | .avgDistinct => averageOf account.once.floats account.all.held.dedup
  | .count => some (countOf account.all.held)
  | .countDistinct => some (countOf account.all.held.dedup)
  | .first => some (account.all.held.head?.getD .null)
  | .last => some (account.all.held.getLast?.getD .null)
  | .max => some ((Value.sort account.all.held).getLast?.getD .null)
  | .min => some ((Value.sort account.all.held).head?.getD .null)
  | .sum => sumOf account.all.floats account.all.held
  | .sumDistinct => sumOf account.once.floats account.all.held.dedup

end Aggregate

@[simp] theorem integerTotal_append (values : List Value) (value : Value) :
    integerTotal (values ++ [value]) = integerTotal values + value.integerPart := by
  simp [integerTotal]

theorem integerTotal_perm {left right : List Value} (perm : left.Perm right) :
    integerTotal left = integerTotal right := (perm.map _).sum_eq

theorem integerTotal_erase {values : List Value} {value : Value} (held : value ∈ values) :
    integerTotal (values.erase value) = integerTotal values - value.integerPart := by
  have whole := integerTotal_perm (List.perm_cons_erase held)
  have parts : integerTotal (value :: values.erase value) =
      value.integerPart + integerTotal (values.erase value) := by simp [integerTotal]
  omega

theorem countP_erase {values : List Value} {value : Value} (held : value ∈ values) (p : Value → Bool) :
    (values.erase value).countP p + (if p value then 1 else 0) = values.countP p := by
  rw [(List.perm_cons_erase held).countP_eq p, List.countP_cons]

theorem any_eq_false_iff_countP (values : List Value) (p : Value → Bool) :
    values.any p = false ↔ values.countP p = 0 := by
  rw [List.countP_eq_zero, List.any_eq_false]

namespace Aggregate

theorem sumOf_perm {left right : List Value} (perm : left.Perm right) (floats : Binary64) :
    sumOf floats left = sumOf floats right := by
  unfold sumOf
  rw [integerTotal_perm perm, perm.any_eq, perm.isEmpty_eq]

theorem averageOf_perm {left right : List Value} (perm : left.Perm right) (floats : Binary64) :
    averageOf floats left = averageOf floats right := by
  unfold averageOf
  rw [integerTotal_perm perm, perm.any_eq, perm.isEmpty_eq, perm.length_eq]

theorem countOf_perm {left right : List Value} (perm : left.Perm right) : countOf left = countOf right := by
  unfold countOf
  rw [perm.length_eq]

end Aggregate

namespace Ledger

def Settled (ledger : Ledger) : Prop := ledger.held.any Value.isFloat = false → ledger.floats = .zero false

theorem Settled.take {ledger : Ledger} (settled : ledger.Settled) (change : Change) : (ledger.take change).Settled := by
  obtain ⟨kind, value⟩ := change
  intro none
  cases kind with
  | insert =>
    change (ledger.held ++ [value]).any Value.isFloat = false at none
    rw [List.any_append, Bool.or_eq_false_iff] at none
    change floatsWith ledger.floats value = .zero false
    cases value with
    | float x => exact absurd none.2 (by simp [Value.isFloat])
    | _ => exact settled none.1
  | retract =>
    change (ledger.held.erase value).any Value.isFloat = false at none
    change floatsWithout (ledger.held.erase value) ledger.floats value = .zero false
    by_cases float : value.isFloat = true
    · cases value with
      | float x => exact if_neg (by rw [none]; exact Bool.false_ne_true)
      | _ => cases float
    · have before : ledger.held.any Value.isFloat = false := by
        rw [List.any_eq_false] at none ⊢
        intro other member
        by_cases same : other = value
        · rwa [same]
        · exact none other ((List.mem_erase_of_ne same).mpr member)
      cases value with
      | float x => exact absurd rfl float
      | _ => exact settled before

end Ledger

namespace Account

structure Sound (account : Account) : Prop where
  nodup : account.once.held.Nodup
  member : ∀ value, value ∈ account.once.held ↔ value ∈ account.all.held
  allSettled : account.all.Settled
  onceSettled : account.once.Settled

theorem sound_empty : Sound {} := ⟨List.nodup_nil, fun _ => Iff.rfl, fun _ => rfl, fun _ => rfl⟩

theorem mem_take_insert {account : Account}
    (member : ∀ other, other ∈ account.once.held ↔ other ∈ account.all.held) (value other : Value) :
    other ∈ (account.take (.insert, value)).once.held ↔ other ∈ (account.take (.insert, value)).all.held := by
  unfold take
  by_cases held : value ∈ account.all.held
  · have positive := List.count_pos_iff.mpr held
    have passes : account.passes (.insert, value) = false := beq_false_of_ne (Nat.ne_of_gt positive)
    simp only [passes, Ledger.take, List.mem_append, List.mem_singleton, Bool.false_eq_true, if_false]
    rw [member other]
    constructor
    · exact .inl
    · rintro (old | rfl)
      · exact old
      · exact held
  · have passes : account.passes (.insert, value) = true := beq_iff_eq.mpr (List.count_eq_zero.mpr held)
    simp only [passes, Ledger.take, if_true, List.mem_append, member other]

theorem mem_take_retract {account : Account} (nodup : account.once.held.Nodup)
    (member : ∀ other, other ∈ account.once.held ↔ other ∈ account.all.held) (value other : Value) :
    other ∈ (account.take (.retract, value)).once.held ↔ other ∈ (account.take (.retract, value)).all.held := by
  unfold take
  by_cases last : account.all.held.count value = 1
  · have passes : account.passes (.retract, value) = true := beq_iff_eq.mpr last
    simp only [passes, Ledger.take, if_true]
    by_cases same : other = value
    · subst same
      have gone : other ∉ account.all.held.erase other := by
        rw [← List.count_eq_zero, List.count_erase_self, last]
      exact iff_of_false (fun once => (nodup.mem_erase_iff.mp once).1 rfl) gone
    · rw [List.mem_erase_of_ne same, List.mem_erase_of_ne same, member other]
  · have passes : account.passes (.retract, value) = false := beq_false_of_ne last
    simp only [passes, Ledger.take, Bool.false_eq_true, if_false]
    by_cases same : other = value
    · subst same
      rw [member other, ← List.count_pos_iff, ← List.count_pos_iff, List.count_erase_self]
      omega
    · rw [List.mem_erase_of_ne same, member other]

theorem nodup_take {account : Account} (nodup : account.once.held.Nodup)
    (member : ∀ other, other ∈ account.once.held ↔ other ∈ account.all.held) (change : Change) :
    (account.take change).once.held.Nodup := by
  unfold take
  cases passes : account.passes change with
  | false => exact nodup
  | true =>
    obtain ⟨kind, value⟩ := change
    cases kind with
    | insert =>
      have absent : value ∉ account.once.held := by
        rw [member, ← List.count_eq_zero]
        exact beq_iff_eq.mp passes
      refine List.nodup_append.mpr ⟨nodup, List.nodup_singleton _, ?_⟩
      rintro old present new single rfl
      exact absent (List.mem_singleton.mp single ▸ present)
    | retract => exact nodup.erase value

theorem Sound.take {account : Account} (sound : account.Sound) (change : Change) : (account.take change).Sound where
  nodup := nodup_take sound.nodup sound.member change
  member := by
    obtain ⟨kind, value⟩ := change
    cases kind with
    | insert => exact mem_take_insert sound.member value
    | retract => exact mem_take_retract sound.nodup sound.member value
  allSettled := sound.allSettled.take change
  onceSettled := by
    change Ledger.Settled (if account.passes change then account.once.take change else account.once)
    split
    · exact sound.onceSettled.take change
    · exact sound.onceSettled

theorem sound_foldl {account : Account} (sound : account.Sound) (changes : List Change) :
    (changes.foldl Account.take account).Sound := by
  induction changes generalizing account with
  | nil => exact sound
  | cons change changes ih => exact ih (sound.take change)

theorem sound_ofChanges (changes : List Change) : (ofChanges changes).Sound := sound_foldl sound_empty changes

theorem ofChanges_append (changes : List Change) (change : Change) :
    ofChanges (changes ++ [change]) = (ofChanges changes).take change := List.foldl_append

theorem Sound.eq_empty {account : Account} (sound : account.Sound) (none : account.all.held = []) : account = {} := by
  have noneOnce : account.once.held = [] := by
    rw [List.eq_nil_iff_forall_not_mem]
    intro value once
    have held := (sound.member value).mp once
    rw [none] at held
    cases held
  have allFloats : account.all.floats = .zero false := sound.allSettled (by rw [none]; rfl)
  have onceFloats : account.once.floats = .zero false := sound.onceSettled (by rw [noneOnce]; rfl)
  obtain ⟨⟨allHeld, allTotal⟩, ⟨onceHeld, onceTotal⟩⟩ := account
  cases none
  cases noneOnce
  cases allFloats
  cases onceFloats
  rfl

theorem Sound.perm {account : Account} (sound : account.Sound) : account.once.held.Perm account.all.held.dedup := by
  rw [List.perm_ext_iff_of_nodup sound.nodup (List.nodup_dedup _)]
  intro value
  rw [sound.member, List.mem_dedup]

end Account

end DeltaQuery
