import DeltaQuery.Operator
import DeltaQuery.Proofs.Consistency
import DeltaQuery.Proofs.Pulls

namespace DeltaQuery

variable {σ : Type}

-- What a pull comes to for a stream that has given some records.
structure Sound (held : List Record → σ → Prop) (seen : List Record) (pulled : Pulled σ) : Prop where
  record : ∀ record, pulled.answer = .ok (some record) → held (seen ++ [record]) pulled.stream
  ended : pulled.answer = .ok none → held seen pulled.stream
  failed : ∀ failure, pulled.answer = .error failure → failure.kind ≠ .retraction

-- A relation between a stream and the records it has given so far, which every pull keeps. For a stage it says what
-- it has been given by the streams below and what it has made of that.
structure Pull.Honest (next : Pull σ) (held : List Record → σ → Prop) : Prop where
  balanced : ∀ {seen stream}, held seen stream → Balanced seen
  sound : ∀ {seen stream} cancelled, held seen stream → Sound held seen (next stream cancelled)

theorem sound_of_error {held : List Record → σ → Prop} {seen : List Record} {pulled : Pulled σ} {failure : Failure}
    (answer : pulled.answer = .error failure) (kind : failure.kind ≠ .retraction) : Sound held seen pulled where
  record := by
    intro record given
    cases answer.symm.trans given
  ended := by
    intro ended
    cases answer.symm.trans ended
  failed := by
    intro other failed
    cases answer.symm.trans failed
    exact kind

theorem sound_of_end {held : List Record → σ → Prop} {seen : List Record} {pulled : Pulled σ}
    (answer : pulled.answer = .ok none) (kept : held seen pulled.stream) : Sound held seen pulled where
  record := by
    intro record given
    cases answer.symm.trans given
  ended := by
    intro _
    exact kept
  failed := by
    intro failure failed
    cases answer.symm.trans failed

theorem sound_of_record {held : List Record → σ → Prop} {seen : List Record} {pulled : Pulled σ} {record : Record}
    (answer : pulled.answer = .ok (some record)) (kept : held (seen ++ [record]) pulled.stream) :
    Sound held seen pulled where
  record := by
    intro other given
    cases answer.symm.trans given
    exact kept
  ended := by
    intro ended
    cases answer.symm.trans ended
  failed := by
    intro failure failed
    cases answer.symm.trans failed

theorem Sound.imp {τ : Type} {held : List Record → σ → Prop} {kept : List Record → τ → Prop} {seen : List Record}
    {pulled : Pulled σ} {wrap : σ → τ} (sound : Sound held seen pulled)
    (wrapped : ∀ {seen stream}, held seen stream → kept seen (wrap stream)) : Sound kept seen (pulled.map wrap) where
  record := fun record answer => wrapped (sound.record record answer)
  ended := fun answer => wrapped (sound.ended answer)
  failed := sound.failed

def Feed.Replays (seen : List Record) (feed : Feed) : Prop :=
  ∃ pending, feed = .replay pending ∧ Consistent (seen ++ pending)

theorem Feed.Replays.balanced {seen : List Record} {feed : Feed} (replays : feed.Replays seen) : Balanced seen := by
  obtain ⟨pending, rfl, consistent⟩ := replays
  exact consistent seen (List.prefix_append seen pending)

theorem Feed.pull_honest : Pull.Honest Feed.pull (fun seen feed => feed.Replays seen) where
  balanced := Feed.Replays.balanced
  sound := by
    intro seen feed cancelled replays
    obtain ⟨pending, rfl, consistent⟩ := replays
    cases pending with
    | nil => exact sound_of_end rfl ⟨[], rfl, consistent⟩
    | cons first pending => exact sound_of_record rfl ⟨pending, rfl, by simpa using consistent⟩

section

variable {next : Pull σ} {held : List Record → σ → Prop}

theorem scan_sound (honest : next.Honest held) (name : String) {seen : List Record} {stream : σ} (cancelled : Bool)
    (holds : held seen stream) : Sound held seen (Pull.scan next name stream cancelled) := by
  unfold Pull.scan
  cases cancelled with
  | true => exact sound_of_error rfl FailureKind.noConfusion
  | false =>
    have sound := honest.sound false holds
    rw [if_neg Bool.false_ne_true]
    dsimp only
    cases answer : (next stream false).answer with
    | error failure => exact sound_of_error rfl (sound.failed failure answer)
    | ok given =>
      cases given with
      | none => exact sound_of_end rfl (sound.ended answer)
      | some record => exact sound_of_record rfl (sound.record record answer)

def Formula.keeping (predicate : Formula) (columns : Columns) : Option Columns :=
  if predicate.evaluate ⟨columns, .insert⟩ = .ok (.bool true) then some columns else none

theorem keeping_of_evaluate {predicate : Formula} {record : Record} {verdict : Value}
    (evaluated : predicate.evaluate record = .ok verdict) :
    through predicate.keeping [record] = if verdict = .bool true then [record] else [] := by
  have same := Formula.evaluate_withKind record .insert predicate
  change predicate.evaluate ⟨record.columns, .insert⟩ = _ at same
  unfold through Formula.keeping
  rw [List.filterMap_cons, same, evaluated]
  by_cases kept : verdict = .bool true
  · rw [if_pos kept, if_pos (congrArg Except.ok kept)]
    rfl
  · rw [if_neg kept, if_neg fun same => kept (Except.ok.inj same)]
    rfl

def Filtered (predicate : Formula) (held : List Record → σ → Prop) (seen : List Record) (stream : σ) : Prop :=
  ∃ below, held below stream ∧ seen = through predicate.keeping below

theorem Filtered.given {predicate : Formula} {below : List Record} {stream : σ} {record : Record} {verdict : Value}
    (holds : held (below ++ [record]) stream) (evaluated : predicate.evaluate record = .ok verdict) :
    Filtered predicate held
      (through predicate.keeping below ++ if verdict = .bool true then [record] else []) stream := by
  refine ⟨below ++ [record], holds, ?_⟩
  rw [through_append, keeping_of_evaluate evaluated]

theorem filter_step (honest : next.Honest held) (predicate : Formula) (fuel : Nat) {seen : List Record} {stream : σ}
    (cancelled : Bool) (filtered : Filtered predicate held seen stream) :
    Sound (Filtered predicate held) seen (Pull.filter next predicate fuel stream cancelled) ∨
      ∃ less, fuel = less + 1 ∧ Filtered predicate held seen (next stream cancelled).stream ∧
        Pull.filter next predicate fuel stream cancelled =
          Pull.filter next predicate less (next stream cancelled).stream (next stream cancelled).cancelled := by
  obtain ⟨below, holds, rfl⟩ := filtered
  rw [Pull.filter.eq_def next predicate fuel stream cancelled]
  cases cancelled with
  | true => exact .inl (sound_of_error rfl FailureKind.noConfusion)
  | false =>
    have sound := honest.sound false holds
    dsimp only
    rw [if_neg Bool.false_ne_true]
    cases answer : (next stream false).answer with
    | error failure => exact .inl (sound_of_error answer (sound.failed failure answer))
    | ok given =>
      cases given with
      | none => exact .inl (sound_of_end answer ⟨below, sound.ended answer, rfl⟩)
      | some record =>
        have after := sound.record record answer
        dsimp only
        cases around : Place.filterPredicate.around (failing (predicate.evaluate record)) with
        | error failure =>
          obtain ⟨inner, inside, kind⟩ := Place.around_kind around
          obtain ⟨cause, evaluated, causeKind⟩ := failing_kind inside
          refine .inl (sound_of_error rfl ?_)
          rw [kind, causeKind]
          exact Formula.evaluate_kind predicate evaluated
        | ok verdict =>
          have evaluated : predicate.evaluate record = .ok verdict := by
            cases value : predicate.evaluate record with
            | error cause =>
              rw [value] at around
              cases around
            | ok value =>
              rw [value] at around
              cases around
              rfl
          have whole := Filtered.given after evaluated
          dsimp only
          by_cases kept : verdict = .bool true
          · rw [if_pos kept] at whole ⊢
            exact .inl (sound_of_record answer whole)
          · rw [if_neg kept, List.append_nil] at whole
            rw [if_neg kept]
            cases fuel with
            | zero => exact .inl (sound_of_error rfl FailureKind.noConfusion)
            | succ less => exact .inr ⟨less, rfl, whole, rfl⟩

-- The records dropped on the way to one that is kept leave what has been given as it was.
theorem filter_sound (honest : next.Honest held) (predicate : Formula) (fuel : Nat) {seen : List Record} {stream : σ}
    (cancelled : Bool) (filtered : Filtered predicate held seen stream) :
    Sound (Filtered predicate held) seen (Pull.filter next predicate fuel stream cancelled) := by
  induction fuel generalizing stream cancelled with
  | zero =>
    rcases filter_step honest predicate 0 cancelled filtered with sound | ⟨less, enough, later, same⟩
    · exact sound
    · cases enough
  | succ fuel ih =>
    rcases filter_step honest predicate (fuel + 1) cancelled filtered with sound | ⟨less, enough, later, same⟩
    · exact sound
    · cases enough
      rw [same]
      exact ih _ later

def Projection.turning (projection : Projection) (columns : Columns) : Option Columns :=
  (projection.apply ⟨columns, .insert⟩).toOption.map (·.columns)

theorem turning_of_apply {projection : Projection} {record row : Record} (applied : projection.apply record = .ok row) :
    through projection.turning [record] = [row] := by
  have same := Formula.evaluateEach_withKind .mapColumn record .insert 0 projection.formulas
  change Formula.evaluateEach .mapColumn ⟨record.columns, .insert⟩ 0 projection.formulas = _ at same
  unfold Projection.apply at applied
  unfold through Projection.turning Projection.apply
  rw [List.filterMap_cons, same]
  cases values : Formula.evaluateEach .mapColumn record 0 projection.formulas with
  | error failure =>
    rw [values] at applied
    cases applied
  | ok values =>
    rw [values] at applied
    cases applied
    rfl

def Projected (projection : Projection) (held : List Record → σ → Prop) (seen : List Record) (stream : σ) : Prop :=
  ∃ below, held below stream ∧ seen = through projection.turning below

theorem map_sound (honest : next.Honest held) (projection : Projection) {seen : List Record} {stream : σ}
    (cancelled : Bool) (projected : Projected projection held seen stream) :
    Sound (Projected projection held) seen (Pull.map next projection stream cancelled) := by
  obtain ⟨below, holds, rfl⟩ := projected
  unfold Pull.map
  cases cancelled with
  | true => exact sound_of_error rfl FailureKind.noConfusion
  | false =>
    have sound := honest.sound false holds
    rw [if_neg Bool.false_ne_true]
    dsimp only
    cases answer : (next stream false).answer with
    | error failure => exact sound_of_error answer (sound.failed failure answer)
    | ok given =>
      cases given with
      | none => exact sound_of_end answer ⟨below, sound.ended answer, rfl⟩
      | some record =>
        have after := sound.record record answer
        dsimp only
        cases applied : projection.apply record with
        | error failure =>
          refine sound_of_error rfl ?_
          unfold Projection.apply at applied
          cases values : Formula.evaluateEach .mapColumn record 0 projection.formulas with
          | error inner =>
            rw [values] at applied
            cases applied
            exact Formula.evaluateEach_kind values
          | ok values =>
            rw [values] at applied
            cases applied
        | ok row =>
          refine sound_of_record rfl ⟨below ++ [record], after, ?_⟩
          rw [through_append, turning_of_apply applied]

-- What each stream that is left has given, with what those have given that have ended.
def Mixed (held : List Record → σ → Prop) (seen : List Record) (rotation : Rotation σ) : Prop :=
  ∃ histories ended, List.Forall₂ held histories rotation.streams ∧ Balanced ended ∧
    seen.Perm (histories.flatten ++ ended)

theorem forall₂_at {histories : List (List Record)} {streams : List σ} {index : Nat} {stream : σ}
    (each : List.Forall₂ held histories streams) (found : streams[index]? = some stream) :
    ∃ before history later, histories = before ++ history :: later ∧ held history stream ∧
      (∀ {changed after}, held changed after →
        List.Forall₂ held (before ++ changed :: later) (streams.set index after)) ∧
      List.Forall₂ held (before ++ later) (streams.eraseIdx index) := by
  induction each generalizing index with
  | nil => cases found
  | @cons history first histories streams holds others ih =>
    cases index with
    | zero =>
      cases found
      exact ⟨[], history, histories, rfl, holds, fun changed => .cons changed others, others⟩
    | succ index =>
      obtain ⟨before, chosen, later, rfl, holdsChosen, changed, left⟩ := ih found
      exact ⟨history :: before, chosen, later, rfl, holdsChosen, fun after => .cons holds (changed after),
        .cons holds left⟩

theorem union_sound (honest : next.Honest held) (turns : Nat) {seen : List Record} {rotation : Rotation σ}
    (cancelled : Bool) (mixed : Mixed held seen rotation) :
    Sound (Mixed held) seen (rotation.pullWithin next turns cancelled) := by
  induction turns generalizing rotation cancelled with
  | zero => exact sound_of_end rfl mixed
  | succ turns ih =>
    rw [Rotation.pullWithin]
    dsimp only
    cases found : rotation.streams[rotation.cursor % rotation.streams.length]? with
    | none => exact sound_of_end rfl mixed
    | some stream =>
      cases cancelled with
      | true => exact sound_of_error rfl FailureKind.noConfusion
      | false =>
        obtain ⟨histories, ended, each, rest, perm⟩ := mixed
        obtain ⟨before, history, later, rfl, holds, changed, left⟩ := forall₂_at each found
        have sound := honest.sound false holds
        dsimp only
        rw [if_neg Bool.false_ne_true]
        cases answer : (next stream false).answer with
        | error failure => exact sound_of_error rfl (sound.failed failure answer)
        | ok given =>
          cases given with
          | none =>
            refine ih _ ⟨before ++ later, history ++ ended, left, (honest.balanced holds).append rest, ?_⟩
            refine perm.trans ?_
            simp only [List.flatten_append, List.flatten_cons, List.append_assoc]
            refine List.Perm.append_left _ ?_
            rw [← List.append_assoc, ← List.append_assoc]
            exact List.perm_append_comm.append_right _
          | some record =>
            have after := sound.record record answer
            refine sound_of_record rfl ⟨before ++ (history ++ [record]) :: later, ended, changed after, rest, ?_⟩
            refine (perm.append_right [record]).trans ?_
            simp only [List.flatten_append, List.flatten_cons, List.append_assoc]
            refine (List.Perm.append_left _ (List.Perm.append_left _ ?_))
            rw [← List.append_assoc]
            exact List.perm_append_comm

end

def given : List Answer → List Record
  | [] => []
  | .ok (some record) :: answers => record :: given answers
  | .ok none :: answers => given answers
  | .error _ :: _ => []

theorem Pull.Honest.consistent {σ : Type} {next : Pull σ} {held : List Record → σ → Prop} (honest : next.Honest held)
    {seen : List Record} {stream : σ} (consistent : Consistent seen) (holds : held seen stream) (signals : List Bool) :
    Consistent (seen ++ given (next.answers signals stream)) := by
  induction signals generalizing seen stream with
  | nil => rwa [Pull.answers, given, List.append_nil]
  | cons cancelled signals ih =>
    have sound := honest.sound cancelled holds
    rw [Pull.answers]
    cases answer : (next stream cancelled).answer with
    | error failure => rwa [given, List.append_nil]
    | ok found =>
      cases found with
      | none =>
        rw [given]
        exact ih consistent (sound.ended answer)
      | some record =>
        have after := sound.record record answer
        have rest := ih (consistent.snoc (honest.balanced after)) after
        rwa [List.append_assoc, List.singleton_append] at rest

namespace Operator

mutual

-- What an operator has given fits what its feeds have given and are still to give.
def Safe : Operator → List Record → Prop
  | .feed _, _ => False
  | .scan _ f, seen => f.Replays seen
  | .filter predicate source, seen => ∃ below, Safe source below ∧ seen = through predicate.keeping below
  | .map projection source, seen => ∃ below, Safe source below ∧ seen = through projection.turning below
  | .unionAll children _, seen =>
    ∃ histories ended, SafeAll children histories ∧ Balanced ended ∧ seen.Perm (histories.flatten ++ ended)
  | .groupBy .., _ => False

def SafeAll : List Operator → List (List Record) → Prop
  | [], histories => histories = []
  | child :: children, histories =>
    ∃ history others, histories = history :: others ∧ Safe child history ∧ SafeAll children others

end

theorem safeAll_iff {children : List Operator} {histories : List (List Record)} :
    SafeAll children histories ↔ List.Forall₂ (fun history child => Safe child history) histories children := by
  induction children generalizing histories with
  | nil =>
    rw [SafeAll]
    constructor
    · rintro rfl
      exact .nil
    · rintro ⟨⟩
      rfl
  | cons child children ih =>
    rw [SafeAll]
    constructor
    · rintro ⟨history, others, rfl, safe, rest⟩
      exact .cons safe (ih.mp rest)
    · rintro (_ | ⟨safe, rest⟩)
      exact ⟨_, _, rfl, safe, ih.mpr rest⟩

mutual

theorem Safe.balanced : (op : Operator) → {seen : List Record} → op.Safe seen → Balanced seen
  | .feed _, _, safe => by
    rw [Safe] at safe
    exact safe.elim
  | .scan _ _, _, safe => by
    rw [Safe] at safe
    exact safe.balanced
  | .filter predicate source, _, safe => by
    rw [Safe] at safe
    obtain ⟨below, safe, rfl⟩ := safe
    exact (Safe.balanced source safe).through predicate.keeping
  | .map projection source, _, safe => by
    rw [Safe] at safe
    obtain ⟨below, safe, rfl⟩ := safe
    exact (Safe.balanced source safe).through projection.turning
  | .unionAll children _, _, safe => by
    rw [Safe] at safe
    obtain ⟨histories, ended, safe, rest, perm⟩ := safe
    exact ((SafeAll.balanced children safe).append rest).perm perm.symm
  | .groupBy .., _, safe => by
    rw [Safe] at safe
    exact safe.elim

theorem SafeAll.balanced : (children : List Operator) → {histories : List (List Record)} →
    SafeAll children histories → Balanced histories.flatten
  | [], _, safe => by
    rw [SafeAll] at safe
    rw [safe]
    exact balanced_nil
  | child :: children, _, safe => by
    rw [SafeAll] at safe
    obtain ⟨history, others, rfl, safe, rest⟩ := safe
    exact (Safe.balanced child safe).append (SafeAll.balanced children rest)

end

theorem pullAt_honest (depth : Nat) : (pullAt depth).Honest fun seen op => op.Safe seen := by
  refine ⟨fun safe => Safe.balanced _ safe, ?_⟩
  induction depth with
  | zero =>
    intro seen op cancelled safe
    cases op with
    | feed f => cases safe
    | scan name f =>
      rw [Safe] at safe
      rw [pullAt]
      exact (scan_sound Feed.pull_honest name cancelled safe).imp fun replays => by rwa [Safe]
    | filter predicate source => exact sound_of_error rfl FailureKind.noConfusion
    | map projection source => exact sound_of_error rfl FailureKind.noConfusion
    | unionAll children cursor => exact sound_of_error rfl FailureKind.noConfusion
    | groupBy grouping source => cases safe
  | succ depth ih =>
    have honest : (pullAt depth).Honest fun seen op => op.Safe seen := ⟨fun safe => Safe.balanced _ safe, ih⟩
    intro seen op cancelled safe
    cases op with
    | feed f => cases safe
    | scan name f =>
      rw [Safe] at safe
      rw [pullAt]
      exact (scan_sound Feed.pull_honest name cancelled safe).imp fun replays => by rwa [Safe]
    | filter predicate source =>
      rw [Safe] at safe
      rw [pullAt]
      exact (filter_sound honest predicate source.remaining cancelled safe).imp fun filtered => by rwa [Safe]
    | map projection source =>
      rw [Safe] at safe
      rw [pullAt]
      exact (map_sound honest projection cancelled safe).imp fun projected => by rwa [Safe]
    | unionAll children cursor =>
      rw [Safe] at safe
      obtain ⟨histories, ended, each, rest, perm⟩ := safe
      rw [pullAt]
      refine (union_sound honest _ cancelled ⟨histories, ended, safeAll_iff.mp each, rest, perm⟩).imp ?_
      intro seen rotation mixed
      obtain ⟨histories, ended, each, rest, perm⟩ := mixed
      rw [Safe]
      exact ⟨histories, ended, safeAll_iff.mpr each, rest, perm⟩
    | groupBy grouping source => cases safe

end Operator

end DeltaQuery
