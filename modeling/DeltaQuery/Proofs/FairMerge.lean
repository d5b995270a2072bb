import DeltaQuery.Proofs.Cancellation
import DeltaQuery.Proofs.LifeCycle
import Mathlib.Data.List.Chain
import Mathlib.Data.List.Rotate

namespace DeltaQuery

variable {σ : Type} {next : Pull σ} {streams : List σ}

namespace Rotation

-- From its cursor on, a union is a queue of the streams that are left, in the order of their turns.
def queue (rotation : Rotation σ) : List σ := rotation.streams.rotate rotation.cursor

theorem queue_append (before after : List σ) : queue ⟨before ++ after, before.length⟩ = after ++ before :=
  List.rotate_append_length_eq before after

theorem queue_of_turn {before after : List σ} {stream : σ} {cursor : Nat}
    (turn : cursor % (before ++ stream :: after).length = before.length % (before ++ stream :: after).length) :
    queue ⟨before ++ stream :: after, cursor⟩ = stream :: (after ++ before) := by
  rw [queue, ← List.rotate_mod, turn, List.rotate_mod, List.rotate_append_length_eq, List.cons_append]

-- The first stream of the queue is asked. One that gives a record goes to the end of the queue, one that fails stays
-- where it is, and one that has ended leaves.
inductive Step (next : Pull σ) (rotation : Rotation σ) : Bool → Pulled (Rotation σ) → Prop
  | finished {cancelled : Bool} (empty : rotation.queue = []) : Step next rotation cancelled ⟨.ok none, rotation, cancelled⟩
  | stopped {first : σ} {rest : List σ} (queue : rotation.queue = first :: rest) :
      Step next rotation true ⟨stopped .unionAll, rotation, true⟩
  | record {first : σ} {rest : List σ} {record : Record} {after : Rotation σ} (queue : rotation.queue = first :: rest)
      (answer : (next first false).answer = .ok (some record)) (last : after.queue = rest ++ [(next first false).stream]) :
      Step next rotation false ⟨.ok (some record), after, (next first false).cancelled⟩
  | failed {first : σ} {rest : List σ} {failure : Failure} {after : Rotation σ} (index : Nat)
      (queue : rotation.queue = first :: rest) (answer : (next first false).answer = .error failure)
      (still : after.queue = (next first false).stream :: rest) :
      Step next rotation false ⟨.error (failure.within (.unionChild index)), after, (next first false).cancelled⟩
  | ended {first : σ} {rest : List σ} {after : Rotation σ} (queue : rotation.queue = first :: rest)
      (answer : (next first false).answer = .ok none) (others : after.queue = rest) :
      Step next rotation false (Rotation.pull next after (next first false).cancelled)

theorem step_pull (next : Pull σ) (rotation : Rotation σ) (cancelled : Bool) :
    rotation.Step next cancelled (Rotation.pull next rotation cancelled) := by
  obtain ⟨streams, cursor⟩ := rotation
  rcases Pull.rotation_cases streams cursor with rfl | ⟨before, stream, after, rfl, turn⟩
  · exact .finished (List.rotate_nil cursor)
  · have queue := queue_of_turn turn
    cases cancelled with
    | true =>
      rw [Pull.rotation_stopped, if_neg (List.append_ne_nil_of_right_ne_nil _ (List.cons_ne_nil _ _))]
      exact .stopped queue
    | false =>
      rw [Pull.rotation_turn turn]
      cases answer : (next stream false).answer with
      | error failure => exact .failed _ queue answer (queue_of_turn (by simpa using turn))
      | ok given =>
        cases given with
        | none => exact .ended queue answer (queue_append before after)
        | some record =>
          refine .record queue answer ?_
          have moved := queue_append (before ++ [(next stream false).stream]) after
          rw [List.length_append, List.length_singleton, List.append_assoc, List.singleton_append] at moved
          rw [moved, List.append_assoc]

end Rotation

-- A stream is asked for its next record: its place in the list that the union was built from, and its answer.
structure Ask where
  place : Nat
  answer : Answer

namespace Ask

def answers (place : Nat) (asks : List Ask) : List Answer :=
  (asks.filter fun ask => ask.place = place).map (·.answer)

def records (place : Nat) (asks : List Ask) : List Record := (answers place asks).filterMap Answer.row?

def Ended (asks : List Ask) (place : Nat) : Prop := .ok none ∈ answers place asks

variable {asks : List Ask} {ask : Ask} {place : Nat}

theorem answers_concat (place : Nat) (asks : List Ask) (ask : Ask) :
    answers place (asks ++ [ask]) = answers place asks ++ if ask.place = place then [ask.answer] else [] := by
  by_cases same : ask.place = place <;> simp [answers, same]

theorem answers_concat_same (asks : List Ask) (place : Nat) (answer : Answer) :
    answers place (asks ++ [⟨place, answer⟩]) = answers place asks ++ [answer] := by
  rw [answers_concat, if_pos rfl]

theorem answers_concat_other (apart : ask.place ≠ place) : answers place (asks ++ [ask]) = answers place asks := by
  rw [answers_concat, if_neg apart, List.append_nil]

theorem records_concat_other (apart : ask.place ≠ place) : records place (asks ++ [ask]) = records place asks := by
  rw [records, answers_concat_other apart, records]

theorem records_concat_same (asks : List Ask) (place : Nat) (answer : Answer) :
    records place (asks ++ [⟨place, answer⟩]) = records place asks ++ answer.row?.toList := by
  rw [records, answers_concat_same, List.filterMap_append, records]
  cases row : answer.row? <;> simp [row]

theorem ended_concat_iff : Ended (asks ++ [ask]) place ↔ Ended asks place ∨ ask.place = place ∧ ask.answer = .ok none := by
  rw [Ended, answers_concat, List.mem_append]
  by_cases same : ask.place = place <;> simp [Ended, same, eq_comm]

end Ask

-- A merge of streams, by what they were asked one after the other.
structure Merges (next : Pull σ) (streams : List σ) (asks : List Ask) : Prop where
  inside : ∀ ask ∈ asks, ask.place < streams.length
  -- A stream answers as it would alone.
  own : ∀ (place : Nat) (stream : σ), streams[place]? = some stream →
    Ask.answers place asks = next.answers (List.replicate (Ask.answers place asks).length false) stream
  -- One that fails is the next to be asked, and one that has ended is never asked again.
  again : asks.IsChain fun ask later => ∀ failure, ask.answer = .error failure → later.place = ask.place
  gone : asks.Pairwise fun ask later => ask.answer = .ok none → later.place ≠ ask.place
  -- At no time are two that have not ended more than one record apart.
  fair : ∀ sofar, sofar <+: asks → ∀ place < streams.length, ∀ other < streams.length,
    ¬Ask.Ended sofar place → ¬Ask.Ended sofar other →
      (Ask.records place sofar).length ≤ (Ask.records other sofar).length + 1

namespace Pull

theorem answers_append (next : Pull σ) (signals more : List Bool) (stream : σ) :
    next.answers (signals ++ more) stream = next.answers signals stream ++ next.answers more (next.after signals stream) := by
  induction signals generalizing stream with
  | nil => rfl
  | cons signal signals ih => exact congrArg (_ :: ·) (ih _)

theorem after_append (next : Pull σ) (signals more : List Bool) (stream : σ) :
    next.after (signals ++ more) stream = next.after more (next.after signals stream) := by
  induction signals generalizing stream with
  | nil => rfl
  | cons signal signals ih => exact ih _

end Pull

-- The stream that was at a place, as its answers have left it.
def Standing (next : Pull σ) (streams : List σ) (asks : List Ask) (place : Nat) (stream : σ) : Prop :=
  ∃ start, streams[place]? = some start ∧
    stream = next.after (List.replicate (Ask.answers place asks).length false) start

section

variable {asks : List Ask} {place : Nat} {stream : σ}

theorem Standing.other (standing : Standing next streams asks place stream) {ask : Ask} (apart : ask.place ≠ place) :
    Standing next streams (asks ++ [ask]) place stream := by
  unfold Standing
  rw [Ask.answers_concat_other apart]
  exact standing

theorem Standing.asked (standing : Standing next streams asks place stream) :
    Standing next streams (asks ++ [⟨place, (next stream false).answer⟩]) place (next stream false).stream := by
  obtain ⟨start, found, rfl⟩ := standing
  refine ⟨start, found, ?_⟩
  rw [Ask.answers_concat_same, List.length_append, List.length_singleton, List.replicate_succ', Pull.after_append]
  rfl

theorem merges_nothing (next : Pull σ) (streams : List σ) : Merges next streams [] where
  inside := fun _ member => nomatch member
  own := fun _ _ _ => rfl
  again := .nil
  gone := .nil
  fair := by
    intro sofar first
    rw [List.prefix_nil.mp first]
    intros
    exact Nat.zero_le _

-- The next to be asked is one that has not ended, that has given no more records than any other, and that was asked last
-- if the last answer was a failure.
theorem Merges.ask (merges : Merges next streams asks) (standing : Standing next streams asks place stream)
    (running : ¬Ask.Ended asks place)
    (retried : ∀ ask ∈ asks.getLast?, ∀ failure, ask.answer = .error failure → place = ask.place)
    (least : ∀ other < streams.length, ¬Ask.Ended asks other →
      (Ask.records place asks).length ≤ (Ask.records other asks).length) :
    Merges next streams (asks ++ [⟨place, (next stream false).answer⟩]) := by
  obtain ⟨start, found, now⟩ := standing
  have there : place < streams.length := (List.getElem?_eq_some_iff.mp found).1
  refine ⟨?_, ?_, ?_, ?_, ?_⟩
  · refine List.forall_mem_append.mpr ⟨merges.inside, ?_⟩
    simpa using there
  · intro other stream' found'
    have before := merges.own other stream' found'
    by_cases same : place = other
    · subst same
      obtain rfl : start = stream' := Option.some.inj (found.symm.trans found')
      rw [Ask.answers_concat_same, List.length_append, List.length_singleton, List.replicate_succ', Pull.answers_append,
        ← before, ← now]
      rfl
    · rw [Ask.answers_concat_other same]
      exact before
  · refine List.isChain_append.mpr ⟨merges.again, .singleton _, ?_⟩
    intro ask last asked first
    cases Option.some.inj first
    exact retried ask last
  · refine List.pairwise_append.mpr ⟨merges.gone, List.pairwise_singleton _ _, ?_⟩
    rintro ⟨ended, answer⟩ member asked single rfl
    rw [List.mem_singleton.mp single]
    rintro rfl
    exact running (List.mem_map.mpr ⟨_, List.mem_filter.mpr ⟨member, by simp⟩, rfl⟩)
  · intro sofar first one oneInside other otherInside oneRunning otherRunning
    rcases List.prefix_concat_iff.mp first with rfl | earlier
    · have oneBefore := fun ended => oneRunning (Ask.ended_concat_iff.mpr (.inl ended))
      have otherBefore := fun ended => otherRunning (Ask.ended_concat_iff.mpr (.inl ended))
      have more : (Ask.records other asks).length ≤
          (Ask.records other (asks ++ [⟨place, (next stream false).answer⟩])).length := by
        by_cases same : place = other
        · subst same
          simp [Ask.records_concat_same]
        · rw [Ask.records_concat_other same]
      by_cases same : place = one
      · subst same
        have one : (next stream false).answer.row?.toList.length ≤ 1 := by
          cases (next stream false).answer.row? <;> simp
        have few := least other otherInside otherBefore
        rw [Ask.records_concat_same, List.length_append]
        omega
      · have few := merges.fair asks List.prefix_rfl one oneInside other otherInside oneBefore otherBefore
        rw [Ask.records_concat_other same]
        omega
    · exact merges.fair sofar earlier one oneInside other otherInside oneRunning otherRunning

end

-- Where a merge stands in its round: the places of those that wait for their turn in it and of those that have had it.
structure Round (next : Pull σ) (streams : List σ) (asks : List Ask) (waiting served : List Nat) (queue : List σ) : Prop where
  merges : Merges next streams asks
  standing : List.Forall₂ (Standing next streams asks) (waiting ++ served) queue
  left : ∀ place, place ∈ waiting ++ served ↔ place < streams.length ∧ ¬Ask.Ended asks place
  distinct : (waiting ++ served).Nodup
  level : ∃ level, (∀ place ∈ waiting, (Ask.records place asks).length = level) ∧
    ∀ place ∈ served, (Ask.records place asks).length = level + 1
  retried : ∀ ask ∈ asks.getLast?, ∀ failure, ask.answer = .error failure → (waiting ++ served).head? = some ask.place

namespace Round

variable {asks : List Ask} {place : Nat} {waiting served : List Nat} {stream : σ} {queue : List σ}

theorem all_ended_iff (round : Round next streams asks waiting served queue) :
    (∀ place < streams.length, Ask.Ended asks place) ↔ queue = [] := by
  have none : queue = [] ↔ waiting ++ served = [] := by
    rw [← List.length_eq_zero_iff, ← round.standing.length_eq, List.length_eq_zero_iff]
  rw [none, List.eq_nil_iff_forall_not_mem]
  simp only [round.left, not_and, not_not]

theorem first (round : Round next streams asks waiting served (stream :: queue)) :
    ∃ place waiting served, Round next streams asks (place :: waiting) served (stream :: queue) := by
  cases waiting with
  | cons place waiting => exact ⟨place, waiting, served, round⟩
  | nil =>
    cases served with
    | nil => cases round.standing
    | cons place served =>
      obtain ⟨level, _, all⟩ := round.level
      have same : (place :: served) ++ [] = [] ++ (place :: served) := List.append_nil _
      refine ⟨place, served, [], round.merges, ?_, ?_, ?_, ⟨level + 1, all, fun _ member => nomatch member⟩, ?_⟩
      · exact same ▸ round.standing
      · exact same ▸ round.left
      · exact same ▸ round.distinct
      · exact same ▸ round.retried

section

variable (round : Round next streams asks (place :: waiting) served (stream :: queue))
include round

theorem place_running : place < streams.length ∧ ¬Ask.Ended asks place := (round.left place).mp List.mem_cons_self

theorem place_standing : Standing next streams asks place stream := (List.forall₂_cons.mp round.standing).1

theorem place_fresh : place ∉ waiting ++ served := (List.nodup_cons.mp round.distinct).1

theorem place_ne {other : Nat} (member : other ∈ waiting ++ served) : place ≠ other := by
  rintro rfl
  exact round.place_fresh member

theorem ask_merges : Merges next streams (asks ++ [⟨place, (next stream false).answer⟩]) := by
  refine round.merges.ask round.place_standing round.place_running.2 ?_ ?_
  · intro ask last failure failed
    exact Option.some.inj (round.retried ask last failure failed)
  · intro other inside running
    obtain ⟨level, waits, done⟩ := round.level
    have least := waits place List.mem_cons_self
    rcases List.mem_append.mp ((round.left other).mpr ⟨inside, running⟩) with member | member
    · exact Nat.le_of_eq (least.trans (waits other member).symm)
    · rw [least, done other member]
      exact Nat.le_succ level

theorem others_standing (answer : Answer) :
    List.Forall₂ (Standing next streams (asks ++ [⟨place, answer⟩])) (waiting ++ served) queue := by
  have standing := (List.forall₂_cons.mp round.standing).2
  refine List.forall₂_iff_zip.mpr ⟨standing.length_eq, ?_⟩
  intro other stream' member
  exact ((List.forall₂_iff_zip.mp standing).2 member).other (round.place_ne (List.of_mem_zip member).1)

theorem others_level (answer : Answer) :
    ∃ level, (∀ other ∈ waiting, (Ask.records other (asks ++ [⟨place, answer⟩])).length = level) ∧
      (∀ other ∈ served, (Ask.records other (asks ++ [⟨place, answer⟩])).length = level + 1) ∧
      (Ask.records place asks).length = level := by
  obtain ⟨level, waits, done⟩ := round.level
  refine ⟨level, ?_, ?_, waits place List.mem_cons_self⟩
  · intro other member
    rw [Ask.records_concat_other (round.place_ne (List.mem_append_left _ member))]
    exact waits other (List.mem_cons_of_mem _ member)
  · intro other member
    rw [Ask.records_concat_other (round.place_ne (List.mem_append_right _ member))]
    exact done other member

theorem record {record : Record} (answer : (next stream false).answer = .ok (some record)) :
    Round next streams (asks ++ [⟨place, .ok (some record)⟩]) waiting (served ++ [place])
      (queue ++ [(next stream false).stream]) := by
  have merges := round.ask_merges
  have asked := round.place_standing.asked
  rw [answer] at merges asked
  obtain ⟨level, waits, done, here⟩ := round.others_level (.ok (some record))
  have moved : (waiting ++ (served ++ [place])).Perm (place :: waiting ++ served) := by
    rw [← List.append_assoc]
    exact List.perm_append_singleton place (waiting ++ served)
  refine ⟨merges, ?_, ?_, moved.nodup_iff.mpr round.distinct, ⟨level, waits, ?_⟩, ?_⟩
  · rw [← List.append_assoc]
    exact List.rel_append (round.others_standing _) (.cons asked .nil)
  · intro other
    rw [moved.mem_iff, round.left, Ask.ended_concat_iff]
    simp
  · refine List.forall_mem_append.mpr ⟨done, ?_⟩
    rw [List.forall_mem_singleton, Ask.records_concat_same, List.length_append, here]
    rfl
  · simp

theorem failed {failure : Failure} (answer : (next stream false).answer = .error failure) :
    Round next streams (asks ++ [⟨place, .error failure⟩]) (place :: waiting) served
      ((next stream false).stream :: queue) := by
  have merges := round.ask_merges
  have asked := round.place_standing.asked
  rw [answer] at merges asked
  obtain ⟨level, waits, done, here⟩ := round.others_level (.error failure)
  refine ⟨merges, .cons asked (round.others_standing _), ?_, round.distinct, ⟨level, ?_, done⟩, ?_⟩
  · intro other
    rw [round.left, Ask.ended_concat_iff]
    simp
  · refine List.forall_mem_cons.mpr ⟨?_, waits⟩
    rw [Ask.records_concat_same, List.length_append, here]
    rfl
  · simp

theorem ended (answer : (next stream false).answer = .ok none) :
    Round next streams (asks ++ [⟨place, .ok none⟩]) waiting served queue := by
  have merges := round.ask_merges
  rw [answer] at merges
  obtain ⟨level, waits, done, _⟩ := round.others_level (.ok none)
  refine ⟨merges, round.others_standing _, ?_, (List.nodup_cons.mp round.distinct).2, ⟨level, waits, done⟩, ?_⟩
  · intro other
    have before := round.left other
    have fresh := round.place_fresh
    rw [Ask.ended_concat_iff]
    by_cases same : place = other
    · subst same
      simp [fresh]
    · rw [List.cons_append, List.mem_cons, or_iff_right (Ne.symm same)] at before
      simp [before, same]
  · simp

end

end Round

-- How the answer of a union comes of those of its streams: streams that end are passed over.
inductive Comes : List Ask → Answer → Prop
  | finished : Comes [] (.ok none)
  | stopped : Comes [] (stopped .unionAll)
  | record (place : Nat) (record : Record) : Comes [⟨place, .ok (some record)⟩] (.ok (some record))
  | failed (place index : Nat) (failure : Failure) :
      Comes [⟨place, .error failure⟩] (.error (failure.within (.unionChild index)))
  | past (place : Nat) {turn : List Ask} {answer : Answer} (rest : Comes turn answer) :
      Comes (⟨place, .ok none⟩ :: turn) answer

theorem Comes.rows_eq {turn : List Ask} {answer : Answer} (comes : Comes turn answer) :
    turn.filterMap (·.answer.row?) = answer.row?.toList := by
  induction comes with
  | past place rest ih => exact ih
  | _ => rfl

structure UnionPull (count : Nat) (asks : List Ask) (cancelled : Bool) (turn : List Ask) (answer : Answer) : Prop where
  comes : Comes turn answer
  -- No stream is asked twice, so the pull comes to an end.
  once : (turn.map (·.place)).Nodup
  ends_iff : answer = .ok none ↔ ∀ place < count, Ask.Ended (asks ++ turn) place
  -- Unless the run has been called off, one is asked if there is one left.
  asked : turn = [] → cancelled = true ∨ ∀ place < count, Ask.Ended asks place

theorem Round.pulled {asks turn : List Ask} {waiting served : List Nat} {queue : List σ} {cancelled : Bool} {answer : Answer}
    (after : Round next streams (asks ++ turn) waiting served queue) (left : queue ≠ []) (comes : Comes turn answer)
    (single : turn.length ≤ 1) (given : answer ≠ .ok none) (asked : turn = [] → cancelled = true) :
    UnionPull streams.length asks cancelled turn answer := by
  refine ⟨comes, ?_, iff_of_false given (mt after.all_ended_iff.mp left), fun none => .inl (asked none)⟩
  cases turn with
  | nil => exact .nil
  | cons ask turn =>
    obtain rfl := List.length_eq_zero_iff.mp (Nat.le_zero.mp (Nat.le_of_succ_le_succ single))
    exact List.nodup_singleton _

-- By induction on the streams that are left, since a pull goes on only when one of them leaves.
theorem Round.pull {asks : List Ask} {waiting served : List Nat} {rotation : Rotation σ}
    (round : Round next streams asks waiting served rotation.queue) (cancelled : Bool) :
    ∃ turn waiting served,
      UnionPull streams.length asks cancelled turn (Rotation.pull next rotation cancelled).answer ∧
        Round next streams (asks ++ turn) waiting served (Rotation.pull next rotation cancelled).stream.queue := by
  have step := rotation.step_pull next cancelled
  generalize Rotation.pull next rotation cancelled = pulled at step ⊢
  cases step with
  | finished empty =>
    have all := round.all_ended_iff.mpr empty
    refine ⟨[], waiting, served, ⟨.finished, .nil, ?_, fun _ => .inr all⟩, ?_⟩
    · rw [List.append_nil]
      exact iff_of_true rfl all
    · rw [List.append_nil]
      exact round
  | stopped queue =>
    have after : Round next streams (asks ++ []) waiting served rotation.queue := by
      rw [List.append_nil]
      exact round
    have left : rotation.queue ≠ [] := queue ▸ List.cons_ne_nil _ _
    exact ⟨[], waiting, served, after.pulled left .stopped (Nat.zero_le 1) nofun fun _ => rfl, after⟩
  | @record first rest _ _ queue answer last =>
    rw [queue] at round
    obtain ⟨place, waiting, served, round⟩ := round.first
    have after := round.record answer
    have left : rest ++ [(next first false).stream] ≠ [] := List.concat_ne_nil _ _
    rw [last]
    exact ⟨_, _, _, after.pulled left (.record place _) (Nat.le_refl 1) nofun nofun, after⟩
  | failed index queue answer still =>
    rw [queue] at round
    obtain ⟨place, waiting, served, round⟩ := round.first
    have after := round.failed answer
    rw [still]
    exact ⟨_, _, _, after.pulled (List.cons_ne_nil _ _) (.failed place index _) (Nat.le_refl 1) nofun nofun, after⟩
  | @ended first rest after queue answer others =>
    have fewer : after.queue.length < rotation.queue.length := by
      rw [others, queue]
      exact Nat.lt_succ_self _
    rw [queue] at round
    obtain ⟨place, waiting, served, round⟩ := round.first
    have left := round.ended answer
    rw [← others] at left
    obtain ⟨turn, waiting, served, pulled, later⟩ := left.pull (next first false).cancelled
    have whole : asks ++ [⟨place, .ok none⟩] ++ turn = asks ++ ⟨place, .ok none⟩ :: turn := by
      rw [List.append_assoc, List.singleton_append]
    have ends := pulled.ends_iff
    rw [whole] at later ends
    have gone := (List.pairwise_append.mp later.merges.gone).2.1
    have fresh : place ∉ turn.map (·.place) := by
      intro member
      obtain ⟨ask, inside, same⟩ := List.mem_map.mp member
      exact List.rel_of_pairwise_cons gone inside rfl same
    exact ⟨_, waiting, served, ⟨.past place pulled.comes, List.nodup_cons.mpr ⟨fresh, pulled.once⟩, ends, nofun⟩, later⟩
termination_by rotation.queue.length

-- Pulls one after the other, each when the run has or has not been called off: what they answer, and all that the streams
-- have been asked before and after them.
inductive Serves (count : Nat) : List Ask → List Bool → List Answer → List Ask → Prop
  | nothing {asks : List Ask} : Serves count asks [] [] asks
  | pull {asks turn all : List Ask} {cancelled : Bool} {signals : List Bool} {answer : Answer} {answers : List Answer}
      (pulled : UnionPull count asks cancelled turn answer) (rest : Serves count (asks ++ turn) signals answers all) :
      Serves count asks (cancelled :: signals) (answer :: answers) all

theorem Serves.rows_eq {count : Nat} {asks all : List Ask} {signals : List Bool} {answers : List Answer}
    (serves : Serves count asks signals answers all) :
    all.filterMap (·.answer.row?) = asks.filterMap (·.answer.row?) ++ answers.filterMap Answer.row? := by
  induction serves with
  | nothing => exact (List.append_nil _).symm
  | @pull asks turn all cancelled signals answer answers pulled rest ih =>
    rw [ih, List.filterMap_append, pulled.comes.rows_eq, List.append_assoc, List.filterMap_cons]
    cases answer.row? <;> rfl

theorem Round.serves {asks : List Ask} {waiting served : List Nat} {rotation : Rotation σ}
    (round : Round next streams asks waiting served rotation.queue) (signals : List Bool) :
    ∃ all waiting served,
      Serves streams.length asks signals ((Rotation.pull next).answers signals rotation) all ∧
        Round next streams all waiting served ((Rotation.pull next).after signals rotation).queue := by
  induction signals generalizing asks waiting served rotation with
  | nil => exact ⟨asks, waiting, served, .nothing, round⟩
  | cons cancelled signals ih =>
    obtain ⟨turn, waiting, served, pulled, round⟩ := round.pull cancelled
    obtain ⟨all, waiting, served, serves, round⟩ := ih round
    exact ⟨all, waiting, served, .pull pulled serves, round⟩

theorem round_of_streams (next : Pull σ) (streams : List σ) :
    Round next streams [] (List.range streams.length) [] (Rotation.queue ⟨streams, 0⟩) := by
  refine ⟨merges_nothing next streams, ?_, ?_, ?_, ⟨0, fun _ _ => rfl, fun _ member => nomatch member⟩,
    fun _ last => nomatch last⟩
  · rw [List.append_nil, Rotation.queue, List.rotate_zero]
    refine List.forall₂_iff_get.mpr ⟨List.length_range, ?_⟩
    intro place here there
    refine ⟨streams.get ⟨place, there⟩, ?_, rfl⟩
    simp
  · intro place
    simp [Ask.Ended, Ask.answers]
  · rw [List.append_nil]
    exact List.nodup_range

namespace Rotation

-- Whatever the streams of a union answer, and however often it is pulled: it asks them in a fair merge, and the records that
-- it gives are just those that they gave, one after the other. It ends when all of them have. What is left in it are those
-- that have not, each as its own answers have left it.
theorem merges_fairly (next : Pull σ) (streams : List σ) (signals : List Bool) :
    ∃ asks left, Merges next streams asks ∧
      Serves streams.length [] signals ((Rotation.pull next).answers signals ⟨streams, 0⟩) asks ∧
      ((Rotation.pull next).answers signals ⟨streams, 0⟩).filterMap Answer.row? = asks.filterMap (·.answer.row?) ∧
      (∀ place, place ∈ left ↔ place < streams.length ∧ ¬Ask.Ended asks place) ∧ left.Nodup ∧
      List.Forall₂ (Standing next streams asks) left ((Rotation.pull next).after signals ⟨streams, 0⟩).queue := by
  obtain ⟨asks, waiting, served, serves, round⟩ := (round_of_streams next streams).serves signals
  exact ⟨asks, waiting ++ served, round.merges, serves, serves.rows_eq.symm, round.left, round.distinct, round.standing⟩

example :
    let given (i : Int64) : Answer := .ok (some ⟨[("v", .int i)], .insert⟩)
    let failure := Failure.of (.scriptedPull 1)
    (Rotation.pull Grouped.ofAnswers).answers (List.replicate 5 false)
        ⟨[[given 1, .error failure, given 2], [], [given 10]], 0⟩ =
      [given 1, given 10, .error (failure.within (.unionChild 0)), given 2, .ok none] := by
  decide +kernel

end Rotation

end DeltaQuery
