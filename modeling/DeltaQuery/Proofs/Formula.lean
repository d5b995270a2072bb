import DeltaQuery.Group

namespace DeltaQuery

namespace Formula

mutual

theorem evaluate_withKind (record : Record) (kind : EventKind) :
    (formula : Formula) → evaluate (record.withKind kind) formula = evaluate record formula
  | .variable name => by
    rw [evaluate, evaluate]
    rfl
  | .constant value => by rw [evaluate, evaluate]
  | .call function arguments => by rw [evaluate, evaluate, evaluateAll_withKind record kind arguments]
  | .connect connective operands => by rw [evaluate, evaluate, join_withKind record kind connective false operands]

theorem evaluateAll_withKind (record : Record) (kind : EventKind) :
    (formulas : List Formula) → evaluateAll (record.withKind kind) formulas = evaluateAll record formulas
  | [] => by rw [evaluateAll, evaluateAll]
  | formula :: formulas => by
    rw [evaluateAll, evaluateAll, evaluate_withKind record kind formula, evaluateAll_withKind record kind formulas]

theorem join_withKind (record : Record) (kind : EventKind) (connective : Connective) (sawNull : Bool) :
    (operands : List Formula) →
      join (record.withKind kind) connective sawNull operands = join record connective sawNull operands
  | [] => by rw [join, join]
  | operand :: operands => by
    rw [join, join, evaluate_withKind record kind operand, join_withKind record kind connective true operands,
      join_withKind record kind connective sawNull operands]

end

theorem evaluateEach_withKind (place : Nat → Place) (record : Record) (kind : EventKind) (index : Nat)
    (formulas : List Formula) :
    evaluateEach place (record.withKind kind) index formulas = evaluateEach place record index formulas := by
  induction formulas generalizing index with
  | nil => rfl
  | cons formula formulas ih => rw [evaluateEach, evaluateEach, evaluate_withKind, ih]

end Formula

theorem GroupSpec.evaluateKey_withKind (spec : GroupSpec) (record : Record) (kind : EventKind) :
    spec.evaluateKey (record.withKind kind) = spec.evaluateKey record :=
  Formula.evaluateEach_withKind .groupKey record kind 0 spec.key

-- Two values that are compared either have an order or are of different types: every number has a float.
theorem Comparison.apply_fails {comparison : Comparison} {left right : Value} {cause : Cause}
    (failed : comparison.apply left right = .error cause) : cause.kind = .evaluation := by
  have unordered {cause : Cause} (fails : order left right = .error cause) : cause = .notComparable left right := by
    unfold order at fails
    split at fails
    · simp [byNumber, Value.toFloat?] at fails
    · simp [byNumber, Value.toFloat?] at fails
    · split at fails <;> cases fails
      rfl
  unfold apply at failed
  split at failed
  · cases failed
  · split at failed <;> cases failed
    rename_i fails
    rw [unordered fails]
    rfl

theorem Arithmetic.ofIntegers_fails {operation : Arithmetic} {a b : Int64} {cause : Cause}
    (failed : operation.ofIntegers a b = .error cause) : cause.kind = .evaluation := by
  unfold ofIntegers at failed
  split at failed
  · cases failed
    rfl
  · split at failed <;> cases failed
    rfl

theorem Arithmetic.ofFloats_fails {operation : Arithmetic} {a b : Binary64} {cause : Cause}
    (failed : operation.ofFloats a b = .error cause) : cause.kind = .evaluation := by
  unfold ofFloats at failed
  split at failed <;> cases failed
  rfl

theorem Arithmetic.apply_fails {operation : Arithmetic} {left right : Value} {cause : Cause}
    (failed : operation.apply left right = .error cause) : cause.kind = .evaluation := by
  unfold apply at failed
  split at failed
  · cases failed
  · cases failed
  · exact ofIntegers_fails failed
  · split at failed
    · exact ofFloats_fails failed
    · cases failed
      rfl
    · cases failed
      rfl

namespace Function

variable {function : Function} {cause : Cause}

theorem onText_fails {change : String → String} {value : Value} (failed : onText function change value = .error cause) :
    cause.kind = .evaluation := by
  unfold onText at failed
  split at failed <;> cases failed
  rfl

theorem negation_fails {value : Value} (failed : negation value = .error cause) : cause.kind = .evaluation := by
  unfold negation at failed
  split at failed <;> cases failed
  rfl

theorem timestamp_fails {value : Value} (failed : timestamp value = .error cause) : cause.kind = .evaluation := by
  unfold timestamp at failed
  split at failed
  · cases failed
  · cases failed
  · split at failed <;> cases failed
    rfl
  · cases failed
    rfl

-- Only a function that lacks an argument fails in a way that is not the record's fault.
theorem apply_fails {arguments : List Value} (failed : function.apply arguments = .error cause) :
    cause.kind = .evaluation ∨ cause.kind = .internal ∧ function.takes arguments.length = false := by
  unfold apply at failed
  split at failed
  · exact .inl (Comparison.apply_fails failed)
  · exact .inl (Arithmetic.apply_fails failed)
  · exact .inl (negation_fails failed)
  · exact .inl (onText_fails failed)
  · exact .inl (onText_fails failed)
  · cases failed
  · exact .inl (timestamp_fails failed)
  · rename_i noCompare noCalculate noNot noLower noUpper noCoalesce noTimestamp
    cases failed
    refine .inr ⟨rfl, ?_⟩
    rcases arguments with _ | ⟨first, _ | ⟨second, others⟩⟩ <;> cases function <;> grind [takes]

end Function

namespace Formula

mutual

def Callable : Formula → Prop
  | .variable _ => True
  | .constant _ => True
  | .call function arguments => function.takes arguments.length = true ∧ AllCallable arguments
  | .connect _ operands => AllCallable operands

def AllCallable : List Formula → Prop
  | [] => True
  | formula :: formulas => Callable formula ∧ AllCallable formulas

end

variable {record : Record} {cause : Cause}

theorem allCallable_iff {formulas : List Formula} : AllCallable formulas ↔ ∀ formula ∈ formulas, formula.Callable := by
  induction formulas with
  | nil => simp [AllCallable]
  | cons formula formulas ih => simp [AllCallable, ih]

theorem evaluateAll_length {formulas : List Formula} {values : List Value}
    (evaluated : evaluateAll record formulas = .ok values) : values.length = formulas.length := by
  induction formulas generalizing values with
  | nil =>
    rw [evaluateAll] at evaluated
    cases evaluated
    rfl
  | cons formula formulas ih =>
    rw [evaluateAll] at evaluated
    split at evaluated
    · cases evaluated
    · split at evaluated <;> cases evaluated
      rename_i rest
      rw [List.length_cons, List.length_cons, ih rest]

theorem truth?_fails {connective : Connective} {value : Value} (failed : truth? connective value = .error cause) :
    cause.kind = .evaluation := by
  unfold truth? at failed
  split at failed <;> cases failed
  rfl

mutual

theorem evaluate_fails : (formula : Formula) → evaluate record formula = .error cause →
    cause.kind = .evaluation ∨ cause.kind = .internal ∧ ¬ formula.Callable
  | .variable name, failed => by
    rw [evaluate] at failed
    split at failed <;> cases failed
    exact .inl rfl
  | .constant value, failed => by
    rw [evaluate] at failed
    cases failed
  | .call function arguments, failed => by
    rw [evaluate] at failed
    rw [Callable]
    split at failed
    · rename_i values evaluated
      rcases Function.apply_fails failed with kind | ⟨kind, lacks⟩
      · exact .inl kind
      · rw [evaluateAll_length evaluated] at lacks
        exact .inr ⟨kind, fun callable => Bool.false_ne_true (lacks.symm.trans callable.1)⟩
    · rename_i inside
      cases failed
      exact (evaluateAll_fails arguments inside).imp_right fun ⟨kind, lacks⟩ => ⟨kind, fun callable => lacks callable.2⟩
  | .connect connective operands, failed => by
    rw [evaluate] at failed
    rw [Callable]
    exact join_fails connective false operands failed

theorem evaluateAll_fails : (formulas : List Formula) → evaluateAll record formulas = .error cause →
    cause.kind = .evaluation ∨ cause.kind = .internal ∧ ¬ AllCallable formulas
  | [], failed => by
    rw [evaluateAll] at failed
    cases failed
  | formula :: formulas, failed => by
    rw [evaluateAll] at failed
    rw [AllCallable]
    split at failed
    · rename_i inside
      cases failed
      exact (evaluate_fails formula inside).imp_right fun ⟨kind, lacks⟩ => ⟨kind, fun callable => lacks callable.1⟩
    · split at failed
      · rename_i inside
        cases failed
        exact (evaluateAll_fails formulas inside).imp_right fun ⟨kind, lacks⟩ => ⟨kind, fun callable => lacks callable.2⟩
      · cases failed

theorem join_fails (connective : Connective) (sawNull : Bool) : (operands : List Formula) →
    join record connective sawNull operands = .error cause →
    cause.kind = .evaluation ∨ cause.kind = .internal ∧ ¬ AllCallable operands
  | [], failed => by
    rw [join] at failed
    cases failed
  | operand :: operands, failed => by
    have later {sawNull : Bool} (failed : join record connective sawNull operands = .error cause) :
        cause.kind = .evaluation ∨ cause.kind = .internal ∧ ¬ AllCallable (operand :: operands) :=
      (join_fails connective sawNull operands failed).imp_right fun ⟨kind, lacks⟩ =>
        ⟨kind, fun callable => by
          rw [AllCallable] at callable
          exact lacks callable.2⟩
    rw [join] at failed
    split at failed
    · rename_i inside
      cases failed
      rw [AllCallable]
      exact (evaluate_fails operand inside).imp_right fun ⟨kind, lacks⟩ => ⟨kind, fun callable => lacks callable.1⟩
    · split at failed
      · rename_i undecided
        cases failed
        exact .inl (truth?_fails undecided)
      · exact later failed
      · split at failed
        · cases failed
        · exact later failed

end

theorem evaluate_kind (formula : Formula) (failed : evaluate record formula = .error cause) :
    cause.kind ≠ .retraction := by
  rcases evaluate_fails formula failed with kind | ⟨kind, _⟩ <;>
  · rw [kind]
    exact FailureKind.noConfusion

end Formula

theorem failing_kind {α : Type} {result : Except Cause α} {failure : Failure} (failed : failing result = .error failure) :
    ∃ cause, result = .error cause ∧ failure.kind = cause.kind := by
  cases result with
  | ok value => cases failed
  | error cause =>
    cases failed
    exact ⟨cause, rfl, rfl⟩

theorem Place.around_kind {α : Type} {place : Place} {result : Except Failure α} {failure : Failure}
    (failed : place.around result = .error failure) : ∃ inner, result = .error inner ∧ failure.kind = inner.kind := by
  cases result with
  | ok value => cases failed
  | error inner =>
    cases failed
    exact ⟨inner, rfl, rfl⟩

theorem Formula.evaluateEach_fails {place : Nat → Place} {record : Record} {index : Nat} {formulas : List Formula}
    {failure : Failure} (failed : evaluateEach place record index formulas = .error failure) :
    ∃ formula ∈ formulas, ∃ cause, formula.evaluate record = .error cause ∧ failure.kind = cause.kind := by
  induction formulas generalizing index with
  | nil => cases failed
  | cons formula formulas ih =>
    rw [evaluateEach] at failed
    split at failed
    · rename_i around
      cases failed
      obtain ⟨inner, inside, kind⟩ := Place.around_kind around
      obtain ⟨cause, evaluated, causeKind⟩ := failing_kind inside
      exact ⟨formula, List.mem_cons_self, cause, evaluated, kind.trans causeKind⟩
    · cases rest : evaluateEach place record (index + 1) formulas with
      | error other =>
        rw [rest] at failed
        cases failed
        obtain ⟨formula, member, fails⟩ := ih rest
        exact ⟨formula, List.mem_cons_of_mem _ member, fails⟩
      | ok values =>
        rw [rest] at failed
        cases failed

theorem Formula.evaluateEach_kind {place : Nat → Place} {record : Record} {index : Nat} {formulas : List Formula}
    {failure : Failure} (failed : evaluateEach place record index formulas = .error failure) :
    failure.kind ≠ .retraction := by
  obtain ⟨formula, _, cause, evaluated, kind⟩ := evaluateEach_fails failed
  rw [kind]
  exact Formula.evaluate_kind formula evaluated

theorem GroupSpec.evaluateKey_kind {spec : GroupSpec} {record : Record} {failure : Failure}
    (failed : spec.evaluateKey record = .error failure) : failure.kind ≠ .retraction :=
  Formula.evaluateEach_kind failed

theorem GroupSpec.fieldsFrom_kind {record : Record} {index : Nat} {columns : List GroupColumn} {failure : Failure}
    (failed : fieldsFrom record index columns = .error failure) : failure.kind = .evaluation := by
  induction columns generalizing index with
  | nil => cases failed
  | cons column columns ih =>
    rw [fieldsFrom] at failed
    split at failed
    · cases failed
      rfl
    · cases rest : fieldsFrom record (index + 1) columns with
      | error other =>
        rw [rest] at failed
        cases failed
        exact ih rest
      | ok values =>
        rw [rest] at failed
        cases failed

end DeltaQuery
