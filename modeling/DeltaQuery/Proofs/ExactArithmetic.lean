import DeltaQuery.Proofs.ExactSums

namespace DeltaQuery

namespace Arithmetic

-- The exact result, where NULL is an operand without an integer.
def result? (operation : Arithmetic) : Option Int → Option Int → Option Int
  | some a, some b => some (operation.exact a b)
  | _, _ => none

def Defined (operation : Arithmetic) (a b : Int) : Prop := ¬ (operation = .div ∧ b = 0) ∧ FitsWord (operation.exact a b)

def fault (operation : Arithmetic) (a b : Int64) : Cause :=
  if operation = .div ∧ b = 0 then .integerDivisionByZero a b else .integerOverflow operation a b

theorem fault_kind (operation : Arithmetic) (a b : Int64) : (operation.fault a b).kind = .evaluation := by
  unfold fault
  split <;> rfl

theorem zero_divisor_iff (operation : Arithmetic) (b : Int64) :
    operation = .div ∧ b = 0 ↔ operation = .div ∧ b.toInt = 0 := by
  rw [← Int64.toInt_inj, Int64.toInt_zero]

theorem ofIntegers_of_defined {operation : Arithmetic} {a b : Int64} (defined : operation.Defined a.toInt b.toInt) :
    ∃ word, operation.ofIntegers a b = .ok (.int word) ∧ word.toInt = operation.exact a.toInt b.toInt := by
  obtain ⟨divides, fits⟩ := defined
  have found := integer?_of_fitsWord fits
  refine ⟨_, ?_, toInt_of_integer? found⟩
  rw [ofIntegers, if_neg (mt (zero_divisor_iff operation b).mp divides), found]

theorem ofIntegers_of_not_defined {operation : Arithmetic} {a b : Int64}
    (undefined : ¬ operation.Defined a.toInt b.toInt) : operation.ofIntegers a b = .error (operation.fault a b) := by
  unfold ofIntegers fault
  by_cases zero : operation = .div ∧ b = 0
  · rw [if_pos zero, if_pos zero]
  · have unfit : ¬ FitsWord (operation.exact a.toInt b.toInt) :=
      fun fits => undefined ⟨mt (zero_divisor_iff operation b).mpr zero, fits⟩
    rw [if_neg zero, if_neg zero, integer?_of_not_fitsWord unfit]

theorem apply_null (operation : Arithmetic) (value : Value) : operation.apply .null value = .ok .null := by
  unfold apply
  rfl

theorem apply_int_null (operation : Arithmetic) (a : Int64) : operation.apply (.int a) .null = .ok .null := by
  unfold apply
  rfl

theorem apply_int_int (operation : Arithmetic) (a b : Int64) :
    operation.apply (.int a) (.int b) = operation.ofIntegers a b := by
  unfold apply
  rfl

end Arithmetic

-- A value that stands for an integer or, without one, for NULL.
inductive Value.StandsFor : Value → Option Int → Prop
  | null : StandsFor .null none
  | integer (word : Int64) : StandsFor (.int word) (some word.toInt)

inductive Calculation
  | integer (word : Int64)
  | null
  | named (name : String)
  | operate (operation : Arithmetic) (left right : Calculation)

namespace Calculation

def formula : Calculation → Formula
  | .integer word => .constant (.int word)
  | .null => .constant .null
  | .named name => .variable name
  | .operate operation left right => .call (.calculate operation) [left.formula, right.formula]

def Bound (record : Record) : Calculation → Prop
  | .integer _ => True
  | .null => True
  | .named name => record.value? name = some .null ∨ ∃ word, record.value? name = some (.int word)
  | .operate _ left right => left.Bound record ∧ right.Bound record

def result? (record : Record) : Calculation → Option Int
  | .integer word => some word.toInt
  | .null => none
  | .named name =>
    match record.value? name with
    | some (.int word) => some word.toInt
    | _ => none
  | .operate operation left right => operation.result? (left.result? record) (right.result? record)

-- The calculation and all those inside it.
def parts : Calculation → List Calculation
  | .integer word => [.integer word]
  | .null => [.null]
  | .named name => [.named name]
  | .operate operation left right => .operate operation left right :: (left.parts ++ right.parts)

-- An operation on two integers that have no result.
inductive Breaks (record : Record) : Calculation → Prop
  | operate {operation : Arithmetic} {left right : Calculation} {a b : Int} (first : left.result? record = some a)
      (second : right.result? record = some b) (undefined : ¬ operation.Defined a b) :
      Breaks record (.operate operation left right)

inductive Blames (record : Record) (calculation : Calculation) : Cause → Prop
  | operate {operation : Arithmetic} {left right : Calculation} {a b : Int64}
      (inside : .operate operation left right ∈ calculation.parts) (first : left.result? record = some a.toInt)
      (second : right.result? record = some b.toInt) (undefined : ¬ operation.Defined a.toInt b.toInt) :
      Blames record calculation (operation.fault a b)

variable {record : Record} {calculation left right : Calculation} {operation : Arithmetic} {cause : Cause} {value : Value}

theorem Blames.kind_eq (blames : Blames record calculation cause) : cause.kind = .evaluation := by
  cases blames
  exact Arithmetic.fault_kind _ _ _

theorem Blames.breaks (blames : Blames record calculation cause) : ∃ part ∈ calculation.parts, part.Breaks record := by
  cases blames with
  | operate inside first second undefined => exact ⟨_, inside, .operate first second undefined⟩

theorem Blames.within {outer : Calculation} (blames : Blames record calculation cause)
    (more : calculation.parts ⊆ outer.parts) : Blames record outer cause := by
  cases blames with
  | operate inside first second undefined => exact .operate (more inside) first second undefined

theorem left_parts_subset : left.parts ⊆ (operate operation left right).parts := by
  intro part member
  exact List.mem_cons_of_mem _ (List.mem_append_left _ member)

theorem right_parts_subset : right.parts ⊆ (operate operation left right).parts := by
  intro part member
  exact List.mem_cons_of_mem _ (List.mem_append_right _ member)

theorem mem_parts (calculation : Calculation) : calculation ∈ calculation.parts := by
  cases calculation <;> exact List.mem_cons_self

theorem sound_operate_iff :
    (∀ part ∈ (operate operation left right).parts, ¬ part.Breaks record) ↔
      ¬ (operate operation left right).Breaks record ∧
        (∀ part ∈ left.parts, ¬ part.Breaks record) ∧ ∀ part ∈ right.parts, ¬ part.Breaks record := by
  rw [parts, List.forall_mem_cons, List.forall_mem_append]

theorem breaks_operate_iff :
    (operate operation left right).Breaks record ↔
      ∃ a b, left.result? record = some a ∧ right.result? record = some b ∧ ¬ operation.Defined a b := by
  constructor
  · rintro ⟨first, second, undefined⟩
    exact ⟨_, _, first, second, undefined⟩
  · rintro ⟨a, b, first, second, undefined⟩
    exact .operate first second undefined

theorem evaluate_operate (operation : Arithmetic) (left right : Calculation) (record : Record) :
    (operate operation left right).formula.evaluate record =
      (left.formula.evaluate record).bind fun first =>
        (right.formula.evaluate record).bind fun second => operation.apply first second := by
  simp only [formula, Formula.evaluate, Formula.evaluateAll]
  cases left.formula.evaluate record with
  | error cause => rfl
  | ok first => cases right.formula.evaluate record <;> rfl

-- Either some operation fails and is blamed, or the value is that of the exact result and every operation has one.
inductive Outcome (record : Record) (calculation : Calculation) : Except Cause Value → Prop
  | failed {cause : Cause} (blames : Blames record calculation cause) : Outcome record calculation (.error cause)
  | done {value : Value} (result : value.StandsFor (calculation.result? record))
      (sound : ∀ part ∈ calculation.parts, ¬ part.Breaks record) : Outcome record calculation (.ok value)

theorem operated {first second : Value} (firstResult : first.StandsFor (left.result? record))
    (secondResult : second.StandsFor (right.result? record)) (leftSound : ∀ part ∈ left.parts, ¬ part.Breaks record)
    (rightSound : ∀ part ∈ right.parts, ¬ part.Breaks record) :
    Outcome record (operate operation left right) (operation.apply first second) := by
  have sound (defined : ∀ a b, left.result? record = some a → right.result? record = some b → operation.Defined a b) :
      ∀ part ∈ (operate operation left right).parts, ¬ part.Breaks record := by
    refine sound_operate_iff.mpr ⟨?_, leftSound, rightSound⟩
    rw [breaks_operate_iff]
    rintro ⟨a, b, isLeft, isRight, undefined⟩
    exact undefined (defined a b isLeft isRight)
  generalize isLeft : left.result? record = leftResult at firstResult
  generalize isRight : right.result? record = rightResult at secondResult
  have whole : (operate operation left right).result? record = operation.result? leftResult rightResult := by
    rw [result?, isLeft, isRight]
  cases firstResult with
  | null =>
    rw [operation.apply_null]
    refine .done ?_ (sound ?_)
    · rw [whole]
      exact .null
    · intro a b isInteger
      cases isLeft.symm.trans isInteger
  | integer a =>
    cases secondResult with
    | null =>
      rw [operation.apply_int_null]
      refine .done ?_ (sound ?_)
      · rw [whole]
        exact .null
      · intro a b _ isInteger
        cases isRight.symm.trans isInteger
    | integer b =>
      rw [operation.apply_int_int]
      by_cases defined : operation.Defined a.toInt b.toInt
      · obtain ⟨word, computed, exact⟩ := Arithmetic.ofIntegers_of_defined defined
        rw [computed]
        refine .done ?_ (sound ?_)
        · rw [whole, Arithmetic.result?, ← exact]
          exact .integer word
        · intro x y isInteger isOther
          cases isLeft.symm.trans isInteger
          cases isRight.symm.trans isOther
          exact defined
      · rw [Arithmetic.ofIntegers_of_not_defined defined]
        exact .failed (.operate (mem_parts _) isLeft isRight defined)

-- By induction on the tree: an operation whose operands have come out is done on integers that are exact.
theorem outcome (bound : calculation.Bound record) :
    Outcome record calculation (calculation.formula.evaluate record) := by
  induction calculation with
  | integer word =>
    rw [formula, Formula.evaluate]
    refine .done (.integer word) ?_
    rw [parts, List.forall_mem_singleton]
    intro breaks
    cases breaks
  | null =>
    rw [formula, Formula.evaluate]
    refine .done .null ?_
    rw [parts, List.forall_mem_singleton]
    intro breaks
    cases breaks
  | named name =>
    have sound : ∀ part ∈ (named name).parts, ¬ part.Breaks record := by
      rw [parts, List.forall_mem_singleton]
      intro breaks
      cases breaks
    rw [formula, Formula.evaluate]
    rcases bound with found | ⟨word, found⟩
    · rw [found]
      refine .done ?_ sound
      rw [result?, found]
      exact .null
    · rw [found]
      refine .done ?_ sound
      rw [result?, found]
      exact .integer word
  | operate operation left right ihLeft ihRight =>
    have evaluated := ihLeft bound.1
    have evaluatedRight := ihRight bound.2
    rw [evaluate_operate]
    generalize left.formula.evaluate record = result at evaluated
    generalize right.formula.evaluate record = other at evaluatedRight
    cases evaluated with
    | failed blames => exact .failed (blames.within left_parts_subset)
    | @done first firstResult leftSound =>
      cases evaluatedRight with
      | failed blames => exact .failed (blames.within right_parts_subset)
      | @done second secondResult rightSound => exact operated firstResult secondResult leftSound rightSound

example :
    let record : Record := ⟨[("n", .null)], .insert⟩
    (operate .div (.named "n") (.integer 0)).formula.evaluate record = .ok .null ∧
      (operate .div (.integer (-7)) (.integer 2)).formula.evaluate record = .ok (.int (-3)) := by
  decide +kernel

end Calculation

end DeltaQuery
