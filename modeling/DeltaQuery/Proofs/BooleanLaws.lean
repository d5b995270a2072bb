import DeltaQuery.Proofs.AlikePlans
import DeltaQuery.Proofs.Formula

namespace DeltaQuery

namespace Connective

def dual : Connective → Connective
  | .and => .or
  | .or => .and

theorem settling_dual (connective : Connective) : connective.dual.settling = !connective.settling := by
  cases connective <;> rfl

end Connective

-- Failures that are the same, or two failures of evaluation.
def Cause.SameOrEvaluation (cause other : Cause) : Prop :=
  cause = other ∨ cause.kind = .evaluation ∧ other.kind = .evaluation

instance : Std.Refl Cause.SameOrEvaluation := ⟨fun _ => .inl rfl⟩

theorem Cause.SameOrEvaluation.kind_eq {cause other : Cause} (alike : cause.SameOrEvaluation other) :
    cause.kind = other.kind := by
  rcases alike with rfl | ⟨kind, otherKind⟩
  · rfl
  · rw [kind, otherKind]

namespace Formula

variable {record : Record} {connective : Connective} {sawNull : Bool} {operand : Formula} {operands : List Formula}

def joinAfter (record : Record) (connective : Connective) (sawNull : Bool) (value : Value) (operands : List Formula) :
    Except Cause Value :=
  match truth? connective value with
  | .error cause => .error cause
  | .ok none => join record connective true operands
  | .ok (some b) => if b = connective.settling then .ok (.bool b) else join record connective sawNull operands

theorem join_cons (record : Record) (connective : Connective) (sawNull : Bool) (operand : Formula)
    (operands : List Formula) :
    join record connective sawNull (operand :: operands) =
      (evaluate record operand).bind fun value => joinAfter record connective sawNull value operands := by
  rw [join]
  cases evaluate record operand <;> rfl

theorem joinAfter_settling (record : Record) (connective : Connective) (sawNull : Bool) (operands : List Formula) :
    joinAfter record connective sawNull (.bool connective.settling) operands = .ok (.bool connective.settling) :=
  if_pos rfl

theorem joinAfter_other {b : Bool} (unsettled : b ≠ connective.settling) (record : Record) (sawNull : Bool)
    (operands : List Formula) :
    joinAfter record connective sawNull (.bool b) operands = join record connective sawNull operands :=
  if_neg unsettled

-- The first operands come to a value, and the others are gone on with after it as after one operand.
theorem join_append (record : Record) (connective : Connective) (sawNull before : Bool) (operands others : List Formula) :
    join record connective (sawNull || before) (operands ++ others) =
      (join record connective before operands).bind fun value => joinAfter record connective sawNull value others := by
  induction operands generalizing before with
  | nil =>
    rw [List.nil_append, join]
    cases before with
    | true =>
      rw [Bool.or_true]
      rfl
    | false =>
      rw [Bool.or_false]
      exact (joinAfter_other (Bool.not_ne_self _) record sawNull others).symm
  | cons operand operands ih =>
    rw [List.cons_append, join_cons, join_cons]
    cases evaluate record operand with
    | error cause => rfl
    | ok value =>
      cases value with
      | null =>
        have seen := ih true
        rw [Bool.or_true] at seen
        exact seen
      | bool b =>
        by_cases settled : b = connective.settling
        · subst settled
          simp only [Except.bind, joinAfter_settling]
        · simp only [Except.bind, joinAfter_other settled]
          exact ih before
      | _ => rfl

theorem join_append_congr {others twins : List Formula}
    (same : ∀ sawNull, join record connective sawNull others = join record connective sawNull twins) (sawNull : Bool)
    (operands : List Formula) :
    join record connective sawNull (operands ++ others) = join record connective sawNull (operands ++ twins) := by
  have after (value : Value) :
      joinAfter record connective false value others = joinAfter record connective false value twins := by
    unfold joinAfter
    rw [same true, same false]
  have whole := join_append record connective false sawNull operands
  rw [Bool.false_or] at whole
  rw [whole others, whole twins]
  simp only [after]

theorem join_nested (record : Record) (connective : Connective) (sawNull : Bool) (inner after : List Formula) :
    join record connective sawNull (.connect connective inner :: after) =
      join record connective sawNull (inner ++ after) := by
  have whole := join_append record connective sawNull false inner after
  rw [Bool.or_false] at whole
  rw [join_cons, evaluate, whole]

theorem evaluate_nested (record : Record) (connective : Connective) (before inner after : List Formula) :
    (connect connective (before ++ [.connect connective inner] ++ after)).evaluate record =
      (connect connective (before ++ inner ++ after)).evaluate record := by
  rw [evaluate, evaluate, List.append_assoc, List.append_assoc, List.singleton_append]
  exact join_append_congr (fun sawNull => join_nested record connective sawNull inner after) false before

-- The negation of each operand settles the other connective just where the operand settles this one.
theorem join_dual (record : Record) (connective : Connective) (sawNull : Bool) (operands : List Formula) :
    Matches Cause.SameOrEvaluation ((join record connective sawNull operands).bind Function.negation)
      (join record connective.dual sawNull (operands.map negated)) := by
  induction operands generalizing sawNull with
  | nil =>
    rw [List.map_nil, join, join, connective.settling_dual]
    cases sawNull <;> exact .ok _
  | cons operand operands ih =>
    rw [List.map_cons, join_cons, join_cons, evaluate_negated]
    cases evaluate record operand with
    | error cause => exact .error (.inl rfl)
    | ok value =>
      cases value with
      | null => exact ih true
      | bool b =>
        have dual := connective.settling_dual
        by_cases settled : b = connective.settling
        · subst settled
          simp only [Except.bind, Function.negation, joinAfter_settling]
          rw [← dual, joinAfter_settling]
          exact .ok _
        · have other : (!b) ≠ connective.dual.settling := by
            rw [dual]
            exact fun same => settled (Bool.not_inj same)
          simp only [Except.bind, Function.negation, joinAfter_other settled, joinAfter_other other]
          exact ih sawNull
      | _ => exact .error (.inr ⟨rfl, rfl⟩)

theorem deMorgan (connective : Connective) (operands : List Formula) :
    (negated (connect connective operands)).Alike Cause.SameOrEvaluation (connect connective.dual (operands.map negated)) := by
  intro record
  rw [evaluate_negated, evaluate, evaluate]
  exact join_dual record connective false operands

-- As long as no function lacks an argument, both sides fail in their evaluation if they fail.
theorem deMorgan_kind (connective : Connective) (operands : List Formula) (record : Record) :
    Matches (fun cause other => cause.kind = other.kind ∧ (AllCallable operands → cause.kind = .evaluation))
      ((negated (connect connective operands)).evaluate record)
      ((connect connective.dual (operands.map negated)).evaluate record) := by
  have matching := deMorgan connective operands record
  have fails {cause : Cause} := @evaluate_fails record cause (negated (connect connective operands))
  generalize (negated (connect connective operands)).evaluate record = result at matching fails
  generalize (connect connective.dual (operands.map negated)).evaluate record = other at matching
  cases matching with
  | ok value => exact .ok value
  | error alike =>
    refine .error ⟨alike.kind_eq, ?_⟩
    intro callable
    rcases fails rfl with kind | ⟨_, lacks⟩
    · exact kind
    · exact absurd ⟨rfl, callable, trivial⟩ lacks

-- One formula in place of another by one of the laws, at any depth.
inductive Rewrites : Formula → Formula → Prop
  | nested (connective : Connective) (before inner after : List Formula) :
      Rewrites (.connect connective (before ++ [.connect connective inner] ++ after))
        (.connect connective (before ++ inner ++ after))
  | deMorgan (connective : Connective) (operands : List Formula) :
      Rewrites (negated (.connect connective operands)) (.connect connective.dual (operands.map negated))
  | comparison (comparison : Comparison) (left right : Formula) :
      Rewrites (negated (.call (.compare comparison) [left, right])) (.call (.compare comparison.opposite) [left, right])
  | argument {formula twin : Formula} (function : Function) (before after : List Formula) (law : Rewrites formula twin) :
      Rewrites (.call function (before ++ formula :: after)) (.call function (before ++ twin :: after))
  | operand {formula twin : Formula} (connective : Connective) (before after : List Formula) (law : Rewrites formula twin) :
      Rewrites (.connect connective (before ++ formula :: after)) (.connect connective (before ++ twin :: after))

theorem alike_of_eq {formula twin : Formula} (same : ∀ record, formula.evaluate record = twin.evaluate record) :
    formula.Alike Cause.SameOrEvaluation twin := by
  intro record
  rw [same record]
  exact .refl _

theorem alike_each {formula twin : Formula} (alike : formula.Alike Cause.SameOrEvaluation twin)
    (before after : List Formula) :
    List.Forall₂ (Alike Cause.SameOrEvaluation) (before ++ formula :: after) (before ++ twin :: after) := by
  have others (formulas : List Formula) : List.Forall₂ (Alike Cause.SameOrEvaluation) formulas formulas :=
    List.forall₂_same.mpr fun formula _ => alike_of_eq fun _ => rfl
  exact List.rel_append (others before) (.cons alike (others after))

theorem Rewrites.alike {formula twin : Formula} (law : Rewrites formula twin) :
    formula.Alike Cause.SameOrEvaluation twin := by
  induction law with
  | nested connective before inner after =>
    exact alike_of_eq fun record => evaluate_nested record connective before inner after
  | deMorgan connective operands => exact Formula.deMorgan connective operands
  | comparison comparison left right =>
    exact alike_of_eq fun record => (evaluate_opposite comparison left right record).symm
  | argument function before after law ih => exact Alike.call (alike_each ih before after) function
  | operand connective before after law ih => exact Alike.connect (alike_each ih before after) connective

end Formula

theorem Pull.mirrors_itself {σ : Type} (next : Pull σ) (same : Cause → Cause → Prop) [Std.Refl same] :
    next.Mirrors next same Eq := by
  rintro stream _ cancelled rfl
  exact ⟨.refl _, rfl, rfl⟩

theorem Operator.filter_mirrors {same : Cause → Cause → Prop} [Std.Refl same] {predicate twin : Formula}
    (alike : predicate.Alike same twin) :
    pull.Mirrors pull same fun op image => ∃ source, op = .filter predicate source ∧ image = .filter twin source := by
  rintro op image cancelled ⟨source, rfl, rfl⟩
  have mirrored := (pull.mirrors_itself same).filter alike source.remaining source source cancelled rfl
  rw [pull_filter, pull_filter]
  exact mirrored.map fun after reflected still => ⟨after, rfl, still ▸ rfl⟩

namespace Formula

-- Nesting disappears and a negated comparison is its opposite, to the failure; De Morgan's law holds up to the words of a
-- failure of evaluation. Written by any of these laws, at any depth, a filter answers every pull with the same record or
-- end, or fails there too.
theorem boolean_laws :
    (∀ (connective : Connective) (before inner after : List Formula) (record : Record),
      (connect connective (before ++ [.connect connective inner] ++ after)).evaluate record =
        (connect connective (before ++ inner ++ after)).evaluate record) ∧
    (∀ (connective : Connective) (operands : List Formula) (record : Record),
      Matches (fun cause other => cause.kind = other.kind ∧ (AllCallable operands → cause.kind = .evaluation))
        ((negated (connect connective operands)).evaluate record)
        ((connect connective.dual (operands.map negated)).evaluate record)) ∧
    (∀ (comparison : Comparison) (left right : Formula) (record : Record),
      (negated (call (.compare comparison) [left, right])).evaluate record =
        (call (.compare comparison.opposite) [left, right]).evaluate record) ∧
    ∀ predicate twin : Formula, Rewrites predicate twin → ∀ (source : Operator) (signals : List Bool),
      List.Forall₂ (Matches (Failure.Alike Cause.SameOrEvaluation)) (Operator.pull.answers signals (.filter predicate source))
        (Operator.pull.answers signals (.filter twin source)) := by
  refine ⟨?_, deMorgan_kind, ?_, ?_⟩
  · intro connective before inner after record
    exact evaluate_nested record connective before inner after
  · intro comparison left right record
    exact (evaluate_opposite comparison left right record).symm
  · intro predicate twin law source signals
    exact (Operator.filter_mirrors law.alike).answers signals ⟨source, rfl, rfl⟩

-- One record fails on both sides, in other words: its first operand is no truth value.
theorem boolean_laws_negated_and :
    let equal : Formula := .call (.compare .eq) [.variable "n", .constant (.int 1)]
    let predicate := negated (.connect .and [.variable "v", equal])
    let twin : Formula := .connect .or [negated (.variable "v"), negated equal]
    let failing : Record := ⟨[("v", .int 3), ("n", .int 1)], .insert⟩
    let source : Operator := .scan "list" (.replay [⟨[("v", .null), ("n", .int 2)], .insert⟩, failing,
      ⟨[("v", .bool true), ("n", .int 1)], .insert⟩])
    AllCallable [.variable "v", equal] ∧
      (∃ cause other, predicate.evaluate failing = .error cause ∧ twin.evaluate failing = .error other ∧
        cause.kind = .evaluation ∧ other.kind = .evaluation) ∧
      Rewrites predicate twin ∧
      Operator.pull.answers [false, false, false] (.filter twin source) =
        [.ok (some ⟨[("v", .null), ("n", .int 2)], .insert⟩),
          .error ⟨[.filterPredicate], .notDefinedFor "not" (.int 3)⟩, .ok none] ∧
      ∀ signals, List.Forall₂ (Matches (Failure.Alike Cause.SameOrEvaluation))
        (Operator.pull.answers signals (.filter predicate source)) (Operator.pull.answers signals (.filter twin source)) := by
  intro equal predicate twin failing source
  have callable : AllCallable [.variable "v", equal] := ⟨trivial, ⟨rfl, trivial, trivial, trivial⟩, trivial⟩
  have law : Rewrites predicate twin := .deMorgan .and [.variable "v", equal]
  have fails : predicate.evaluate failing = .error (.notDefinedFor "and" (.int 3)) := by decide +kernel
  have matching : Matches _ (predicate.evaluate failing) (twin.evaluate failing) :=
    boolean_laws.2.1 .and [.variable "v", equal] failing
  refine ⟨callable, ?_, law, by decide +kernel, fun signals => boolean_laws.2.2.2 predicate twin law source signals⟩
  rw [fails] at matching
  generalize twin.evaluate failing = result at matching
  cases matching with
  | @error _ other alike => exact ⟨_, other, fails, rfl, alike.2 callable, alike.1.symm.trans (alike.2 callable)⟩

end Formula

end DeltaQuery
