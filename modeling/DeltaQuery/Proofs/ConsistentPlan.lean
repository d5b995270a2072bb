import DeltaQuery.Proofs.Compiling
import DeltaQuery.Proofs.FalseAlarm

namespace DeltaQuery

namespace Plan

mutual

-- Scans, filters, projections and unions over consistent sources in memory.
def Reads (catalog : Catalog) : Plan → Prop
  | .scan s => ∃ records, catalog.find s.name = .ok (.memory records) ∧ Consistent records
  | .filter _ source => Reads catalog source
  | .map _ source => Reads catalog source
  | .unionAll sources => ReadsAll catalog sources
  | .groupBy .. => False

def ReadsAll (catalog : Catalog) : List Plan → Prop
  | [] => True
  | plan :: plans => Reads catalog plan ∧ ReadsAll catalog plans

end

theorem readsAll_iff {catalog : Catalog} {plans : List Plan} :
    ReadsAll catalog plans ↔ ∀ plan ∈ plans, Reads catalog plan := by
  induction plans with
  | nil => simp [ReadsAll]
  | cons plan plans ih => rw [ReadsAll, ih, List.forall_mem_cons]

variable {settings : Settings} {catalog after : Catalog} {op : Operator}

theorem Reads.congr {plan : Plan} (same : ∀ name, after.find name = catalog.find name)
    (reads : Reads catalog plan) : Reads after plan := by
  induction plan using inductionOn with
  | scan s =>
    rw [Reads] at reads ⊢
    rwa [same]
  | filter predicate source ih =>
    rw [Reads] at reads ⊢
    exact ih reads
  | map columns source ih =>
    rw [Reads] at reads ⊢
    exact ih reads
  | unionAll sources ih =>
    rw [Reads, readsAll_iff] at reads ⊢
    exact fun source member => ih source member (reads source member)
  | groupBy key measures source =>
    rw [Reads] at reads
    exact reads.elim

theorem materializeFrom_safe {plans : List Plan} (index : Nat)
    (each : ∀ plan ∈ plans, ∀ {catalog after op}, Reads catalog plan →
      plan.materialize settings catalog = .ok (op, after) →
      op.Safe [] ∧ ∀ name, after.find name = catalog.find name)
    (reads : ∀ plan ∈ plans, Reads catalog plan) {children : List Operator}
    (compiled : materializeFrom settings index plans catalog = .ok (children, after)) :
    ∃ histories, Operator.SafeAll children histories ∧ histories.flatten = [] ∧
      ∀ name, after.find name = catalog.find name := by
  induction plans generalizing index catalog children with
  | nil =>
    rw [materializeFrom] at compiled
    cases compiled
    refine ⟨[], ?_, rfl, fun _ => rfl⟩
    rw [Operator.SafeAll]
  | cons plan plans ih =>
    obtain ⟨child, middle, first, others, rest, rfl⟩ := materializeFrom_cons.mp compiled
    obtain ⟨safeFirst, safeRest⟩ := List.forall_mem_cons.mp each
    obtain ⟨readsFirst, readsRest⟩ := List.forall_mem_cons.mp reads
    obtain ⟨safe, same⟩ := safeFirst readsFirst first
    obtain ⟨histories, safeOthers, nothing, sameOthers⟩ :=
      ih (index + 1) safeRest (fun plan member => (readsRest plan member).congr same) rest
    refine ⟨[] :: histories, ?_, nothing, fun name => (sameOthers name).trans (same name)⟩
    rw [Operator.SafeAll]
    exact ⟨[], histories, rfl, safe, safeOthers⟩

theorem materialize_safe (plan : Plan) (reads : Reads catalog plan)
    (compiled : plan.materialize settings catalog = .ok (op, after)) :
    op.Safe [] ∧ ∀ name, after.find name = catalog.find name := by
  induction plan using inductionOn generalizing catalog after op with
  | scan s =>
    rw [Reads] at reads
    obtain ⟨records, found, consistent⟩ := reads
    obtain ⟨feed, started, rfl⟩ := materialize_scan.mp compiled
    obtain ⟨rfl, same⟩ := Catalog.start_memory found started
    refine ⟨?_, same⟩
    rw [Operator.Safe]
    exact ⟨records, rfl, consistent⟩
  | filter predicate source ih =>
    rw [Reads] at reads
    obtain ⟨below, compiledBelow, formula, resolved, rfl⟩ := materialize_filter.mp compiled
    obtain ⟨safe, same⟩ := ih reads compiledBelow
    refine ⟨?_, same⟩
    rw [Operator.Safe]
    exact ⟨[], safe, rfl⟩
  | map columns source ih =>
    rw [Reads] at reads
    obtain ⟨below, compiledBelow, formulas, resolved, projection, made, rfl⟩ := materialize_map.mp compiled
    obtain ⟨safe, same⟩ := ih reads compiledBelow
    refine ⟨?_, same⟩
    rw [Operator.Safe]
    exact ⟨[], safe, rfl⟩
  | unionAll sources ih =>
    rw [Reads, readsAll_iff] at reads
    obtain ⟨children, compiledAll, rfl⟩ := materialize_unionAll.mp compiled
    obtain ⟨histories, safe, nothing, same⟩ :=
      materializeFrom_safe 0 (fun source member => ih source member) reads compiledAll
    refine ⟨?_, same⟩
    rw [Operator.Safe]
    exact ⟨histories, [], safe, balanced_nil, by rw [nothing, List.append_nil]⟩
  | groupBy key measures source =>
    rw [Reads] at reads
    exact reads.elim

end Plan

namespace Operator

theorem pull_honest : pull.Honest fun seen op => op.Safe seen :=
  ⟨fun safe => Safe.balanced _ safe, fun {_ op} cancelled safe => (pullAt_honest op.depth).sound cancelled safe⟩

theorem groupBy_no_retraction_failure {grouping : Grouping} {source : Operator}
    (trusted : Grouped.Trusted (fun seen op => op.Safe seen) ⟨grouping, source⟩) (signals : List Bool) :
    ∀ answer ∈ pull.answers signals (.groupBy grouping source), ∀ failure, answer = .error failure →
      failure.kind ≠ .retraction := by
  induction signals generalizing grouping source with
  | nil =>
    intro answer member
    cases member
  | cons cancelled signals ih =>
    obtain ⟨kind, after⟩ := Grouped.pull_trusting (pullAt_honest source.depth) remaining cancelled trusted
    rw [Pull.answers]
    refine List.forall_mem_cons.mpr ⟨?_, ?_⟩
    · intro failure failed
      rw [pull, depth, pullAt] at failed
      exact kind failure failed
    · rw [pull, depth, pullAt]
      exact ih after

end Operator

namespace Plan

-- What a grouping reads stays consistent up to the first failure, and no pull of the grouping ever fails for a
-- retraction.
theorem no_false_alarm (settings : Settings) (catalog : Catalog) (key : List Expr) (measures : List Measure)
    (source : Plan) (reads : source.Reads catalog) {op : Operator} {after : Catalog}
    (compiled : (groupBy key measures source).materialize settings catalog = .ok (op, after)) :
    ∃ grouping below, op = .groupBy grouping below ∧
      (∀ signals, Consistent (given (Operator.pull.answers signals below))) ∧
      ∀ signals, ∀ answer ∈ Operator.pull.answers signals op, ∀ failure, answer = .error failure →
        failure.kind ≠ .retraction := by
  obtain ⟨_, below, compiledSource, _, _, spec, _, rfl⟩ := materialize_groupBy.mp compiled
  obtain ⟨safe, _⟩ := materialize_safe source reads compiledSource
  refine ⟨{ spec }, below, rfl, ?_, ?_⟩
  · intro signals
    have whole := Operator.pull_honest.consistent consistent_nil safe signals
    rwa [List.nil_append] at whole
  · intro signals
    refine Operator.groupBy_no_retraction_failure ?_ signals
    intro stillOpen
    exact ⟨[], GroupTable.keeps_empty spec, safe⟩

def putInAndTakenBack : Catalog where
  entries := [("t", .memory [
    ⟨[("k", .int 1), ("v", .int 5)], .insert⟩,
    ⟨[("k", .int 1), ("v", .int 5)], .retract⟩])]

def twice : Plan := .unionAll [.scan { name := "t" }, .map [⟨.variable "k", ""⟩] (.scan { name := "t" })]

theorem twice_reads : twice.Reads putInAndTakenBack := by
  have consistent : Consistent [
      (⟨[("k", .int 1), ("v", .int 5)], .insert⟩ : Record), ⟨[("k", .int 1), ("v", .int 5)], .retract⟩] := by
    refine Consistent.snoc (Consistent.snoc consistent_nil ?_) ?_
    · intro columns
      simp
    · intro columns
      by_cases same : columns = [("k", .int 1), ("v", .int 5)]
      · simp [same]
      · simp [Ne.symm same]
  have scanned : Reads putInAndTakenBack (.scan { name := "t" }) := by
    rw [Reads]
    exact ⟨_, rfl, consistent⟩
  rw [twice, Reads, ReadsAll, ReadsAll, ReadsAll, Reads]
  exact ⟨scanned, scanned, trivial⟩

theorem no_false_alarm_twice :
    ∃ op after, (groupBy [.variable "k"] [⟨"k", .sum, ""⟩] twice).materialize {} putInAndTakenBack = .ok (op, after) ∧
      ∀ signals, ∀ answer ∈ Operator.pull.answers signals op, ∀ failure, answer = .error failure →
        failure.kind ≠ .retraction := by
  refine ⟨_, _, rfl, ?_⟩
  obtain ⟨grouping, below, _, _, noAlarm⟩ :=
    no_false_alarm {} putInAndTakenBack [.variable "k"] [⟨"k", .sum, ""⟩] twice twice_reads rfl
  exact noAlarm

end Plan

end DeltaQuery
