import DeltaQuery.Proofs.EmitModes
import DeltaQuery.Proofs.Mirrors
import Mathlib.Logic.Relation

namespace DeltaQuery

-- A stream, and the answers that it has given, noted as it gives them.
structure Noted (σ : Type) where
  stream : σ
  answers : List Answer

variable {σ : Type} {next : Pull σ} {remaining : σ → Nat}

def Noted.pull (next : Pull σ) : Pull (Noted σ) := fun noted cancelled =>
  let pulled := next noted.stream cancelled
  { answer := pulled.answer, stream := ⟨pulled.stream, noted.answers ++ [pulled.answer]⟩, cancelled := pulled.cancelled }

theorem Noted.mirrors (next : Pull σ) :
    (Noted.pull next).Mirrors next Eq fun (noted : Noted σ) stream => noted.stream = stream := by
  rintro noted _ cancelled rfl
  exact ⟨.refl _, rfl, rfl⟩

theorem Noted.answers_pull {noted : Noted σ} {cancelled : Bool} {answer : Answer}
    (given : (Noted.pull next noted cancelled).answer = answer) :
    (Noted.pull next noted cancelled).stream.answers = noted.answers ++ [answer] := congrArg (noted.answers ++ [·]) given

theorem Noted.answers_of_gives {noted last : Noted σ} {cancelled signal : Bool} {records : List Record}
    (gives : (Noted.pull next).Gives noted cancelled records last signal) :
    last.answers = noted.answers ++ records.map fun record => .ok (some record) := by
  induction gives with
  | nothing => exact (List.append_nil _).symm
  | @record noted last cancelled signal record records answer rest ih =>
    rw [ih, answers_pull answer, List.append_assoc]
    rfl

structure Turn where
  answer : Answer
  below : List Answer
  grouping : Grouping

namespace Grouped

def noted (grouped : Grouped σ) : Grouped (Noted σ) := ⟨grouped.grouping, ⟨grouped.source, []⟩⟩

def pullNoted (next : Pull σ) (remaining : σ → Nat) (grouped : Grouped σ) (cancelled : Bool) : Pulled (Grouped (Noted σ)) :=
  pull (Noted.pull next) (fun noted => remaining noted.stream) grouped.noted cancelled

def turn (next : Pull σ) (remaining : σ → Nat) (grouped : Grouped σ) (cancelled : Bool) : Turn :=
  { answer := (pull next remaining grouped cancelled).answer
    below := (pullNoted next remaining grouped cancelled).stream.source.answers
    grouping := (pull next remaining grouped cancelled).stream.grouping }

def turns (next : Pull σ) (remaining : σ → Nat) : List Bool → Grouped σ → List Turn
  | [], _ => []
  | cancelled :: signals, grouped =>
    turn next remaining grouped cancelled :: turns next remaining signals (pull next remaining grouped cancelled).stream

theorem pullNoted_map (next : Pull σ) (remaining : σ → Nat) (grouped : Grouped σ) (cancelled : Bool) :
    (pullNoted next remaining grouped cancelled).map (fun grouped => ⟨grouped.grouping, grouped.source.stream⟩) =
      pull next remaining grouped cancelled := by
  have bound : ∀ (noted : Noted σ) stream, noted.stream = stream → remaining noted.stream = remaining stream :=
    fun _ _ same => congrArg remaining same
  have same := (Noted.mirrors next).grouped_same bound grouped.grouping cancelled
    (rfl : (⟨grouped.source, []⟩ : Noted σ).stream = grouped.source)
  change _ = (pull next remaining grouped cancelled).map id
  exact same.map_eq fun noted twin alike => congrArg₂ Grouped.mk alike.1 alike.2

theorem turn_eq (next : Pull σ) (remaining : σ → Nat) (grouped : Grouped σ) (cancelled : Bool) :
    turn next remaining grouped cancelled =
      ⟨(pullNoted next remaining grouped cancelled).answer,
        (pullNoted next remaining grouped cancelled).stream.source.answers,
        (pullNoted next remaining grouped cancelled).stream.grouping⟩ := by
  unfold turn
  rw [← pullNoted_map]
  rfl

end Grouped

inductive Grouping.Drains (grouping : Grouping) : Answer → Grouping → Prop
  | finished : Drains grouping (.ok none) { grouping with phase := .closed }
  | stopped : Drains grouping (.error (Failure.of (.stopped .groupBy))) { grouping with phase := .failed }
  | row (final : grouping.spec.emitMode = .final) {slot : Nat} {group : Group} {row : Record}
      (found : grouping.table.liveFrom? grouping.drained = some (slot, group))
      (built : group.row grouping.spec .insert = .ok row) :
      Drains grouping (.ok (some row)) { grouping with drained := slot + 1 }

-- The six ways in which a pull can go: its own answer, those it got from below, and the grouping that it leaves.
inductive Grouping.Makes (before : Grouping) : Turn → Prop
  | failed (phase : before.phase = .failed) : Makes before ⟨.error (Failure.of .pulledAfterFailure), [], before⟩
  | closed (phase : before.phase = .closed) : Makes before ⟨.ok none, [], before⟩
  | drained {answer : Answer} {after : Grouping} (phase : before.phase = .draining)
      (drains : before.Drains answer after) : Makes before ⟨answer, [], after⟩
  | gaveUp {failure : Failure} {below : List Answer} {records : List Record} {table : GroupTable}
      (phase : before.phase = .open) (taken : before.table.applyAll before.spec records = .ok table) :
      Makes before ⟨.error failure, below, { before with table, phase := .failed }⟩
  | answered {record row : Record} {table : GroupTable} (phase : before.phase = .open)
      (changelog : before.spec.emitMode = .changelog) (taken : before.table.applyAll before.spec [record] = .ok table) :
      Makes before ⟨.ok (some row), [.ok (some record)], { before with table }⟩
  | ended {records : List Record} {table : GroupTable} {answer : Answer} {after : Grouping} (phase : before.phase = .open)
      (taken : before.table.applyAll before.spec records = .ok table)
      (drains : Drains { before with table, phase := .draining } answer after) :
      Makes before ⟨answer, (records.map fun record => .ok (some record)) ++ [.ok none], after⟩

namespace Grouped

variable {grouped : Grouped σ} {cancelled : Bool}

theorem drain_drains (grouped : Grouped σ) (cancelled : Bool) :
    grouped.grouping.Drains (grouped.drain cancelled).answer (grouped.drain cancelled).stream.grouping := by
  cases mode : grouped.grouping.spec.emitMode with
  | changelog =>
    rw [grouped.drain_of_changelog cancelled mode]
    exact .finished
  | final =>
    have drained := drain_cases grouped cancelled
    generalize grouped.drain cancelled = pulled at drained ⊢
    cases drained with
    | finished => exact .finished
    | stopped calledOff => exact .stopped
    | row found built => exact .row mode found built

theorem Ending.makes {before : Grouping} {source : Noted σ} {table : GroupTable} {records : List Record}
    {pulled : Pulled (Grouped (Noted σ))} (ending : Ending (Noted.pull next) ⟨{ before with table }, source⟩ cancelled pulled)
    (phase : before.phase = .open) (given : source.answers = records.map fun record => .ok (some record))
    (taken : before.table.applyAll before.spec records = .ok table)
    (alone : before.spec.emitMode = .changelog → records = []) :
    before.Makes ⟨pulled.answer, pulled.stream.source.answers, pulled.stream.grouping⟩ := by
  cases ending with
  | stopped calledOff => exact .gaveUp phase taken
  | failed answer => exact .gaveUp phase taken
  | ended answer =>
    let reached : Grouped (Noted σ) := ⟨{ before with table, phase := .draining }, (Noted.pull next source cancelled).stream⟩
    let signal := (Noted.pull next source cancelled).cancelled
    have below : (reached.drain signal).stream.source.answers =
        (records.map fun record => .ok (some record)) ++ [.ok none] := by
      rw [(drain_cases reached signal).source, ← given]
      exact Noted.answers_pull answer
    change before.Makes
      ⟨(reached.drain signal).answer, (reached.drain signal).stream.source.answers, (reached.drain signal).stream.grouping⟩
    rw [below]
    exact .ended phase taken (drain_drains reached signal)
  | rejected answer rejection => exact .gaveUp phase taken
  | @row record group answer accepted changelog =>
    obtain ⟨row, built⟩ := group.row_exists before.spec record.kind
    obtain rfl := alone changelog
    cases taken
    have below : (Noted.pull next source cancelled).stream.answers = [.ok (some record)] := by
      rw [Noted.answers_pull answer, given]
      rfl
    dsimp only
    rw [built]
    change before.Makes ⟨_, (Noted.pull next source cancelled).stream.answers, _⟩
    rw [below]
    exact .answered phase changelog (GroupTable.applyAll_singleton accepted)
  | endless answer accepted final =>
    exact .gaveUp phase ((GroupTable.applyAll_append taken).trans (GroupTable.applyAll_singleton accepted))

theorem makes_turn (next : Pull σ) (remaining : σ → Nat) (grouped : Grouped σ) (cancelled : Bool) :
    grouped.grouping.Makes (turn next remaining grouped cancelled) := by
  rw [turn_eq]
  have byPhase := pull_byPhase (Noted.pull next) (fun noted => remaining noted.stream) grouped.noted cancelled
  unfold pullNoted
  generalize pull (Noted.pull next) (fun noted => remaining noted.stream) grouped.noted cancelled = pulled at byPhase ⊢
  cases byPhase with
  | absorbing isOpen fuel =>
    cases mode : grouped.grouping.spec.emitMode with
    | changelog =>
      rcases absorb_step (Noted.pull next) fuel grouped.noted cancelled with ending | ⟨_, _, _, _, _, final, _⟩
      · exact @Ending.makes _ _ _ grouped.grouping _ grouped.grouping.table [] _ ending isOpen rfl rfl fun _ => rfl
      · cases mode.symm.trans final
    | final =>
      obtain ⟨records, source, signal, table, gives, taken, ending⟩ :=
        absorb_cases (Noted.pull next) fuel grouped.noted cancelled
      exact ending.makes isOpen (Noted.answers_of_gives gives) taken fun changelog => nomatch mode.symm.trans changelog
  | draining phase =>
    rw [(drain_cases grouped.noted cancelled).source]
    exact .drained phase (drain_drains grouped.noted cancelled)
  | closed phase => exact .closed phase
  | failed phase => exact .failed phase

end Grouped

end DeltaQuery
