import DeltaQuery.Proofs.Listing

namespace DeltaQuery

def Answer.Silent (answer : Answer) : Prop := ∀ record, answer ≠ .ok (some record)

theorem Answer.silent_none : Answer.Silent (.ok none) := by
  intro record given
  cases given

theorem Answer.silent_error (failure : Failure) : Answer.Silent (.error failure) := by
  intro record given
  cases given

-- The same feeds, except that a pull in which the run is called off fails at once.
def Pull.brokenOff (source : Pull Feed) : Pull Feed := fun feed cancelled =>
  if (source feed cancelled).cancelled then
    { answer := .error (Failure.of (.stopped .scan)), stream := feed, cancelled := true }
  else source feed cancelled

def Grouping.TookOne (before after : Grouping) : Prop :=
  after.spec = before.spec ∧
    (after.table = before.table ∨ ∃ record, after.table = (before.table.apply before.spec record).state)

-- Feeds and groupings since the run was called off in the pull of a feed: that feed has been pulled once, no other has,
-- and no grouping has taken in more than one record. Those of a stream that has ended are gone.
structure Since (source : Pull Feed) (feeds laterFeeds : List Feed) (groupings laterGroupings : List Grouping) : Prop where
  feeds : ∃ before feed after, feeds = before ++ feed :: after ∧ (source feed false).cancelled = true ∧
    laterFeeds.Sublist (before ++ (source feed false).stream :: after)
  groupings : ∃ kept, kept.Sublist groupings ∧ List.Forall₂ Grouping.TookOne kept laterGroupings

theorem Grouping.TookOne.refl (grouping : Grouping) : grouping.TookOne grouping := ⟨rfl, .inl rfl⟩

theorem tookOne_refl (groupings : List Grouping) : List.Forall₂ Grouping.TookOne groupings groupings :=
  List.forall₂_same.mpr fun grouping _ => .refl grouping

namespace Since

variable {source : Pull Feed} {feeds laterFeeds : List Feed} {groupings laterGroupings : List Grouping}

theorem among (since : Since source feeds laterFeeds groupings laterGroupings) (feedsBefore feedsAfter : List Feed)
    (groupingsBefore groupingsAfter : List Grouping) :
    Since source (feedsBefore ++ (feeds ++ feedsAfter)) (feedsBefore ++ (laterFeeds ++ feedsAfter))
      (groupingsBefore ++ (groupings ++ groupingsAfter)) (groupingsBefore ++ (laterGroupings ++ groupingsAfter)) := by
  obtain ⟨⟨before, feed, after, rfl, fires, pulled⟩, kept, sub, took⟩ := since
  refine ⟨⟨feedsBefore ++ before, feed, after ++ feedsAfter, by simp, fires, ?_⟩, ?_⟩
  · have whole := (pulled.append (List.Sublist.refl feedsAfter)).append_left feedsBefore
    simpa using whole
  · refine ⟨groupingsBefore ++ (kept ++ groupingsAfter), ?_, ?_⟩
    · exact (sub.append (List.Sublist.refl groupingsAfter)).append_left groupingsBefore
    · exact List.rel_append (tookOne_refl groupingsBefore) (List.rel_append took (tookOne_refl groupingsAfter))

-- A stream that has ended takes its feeds and groupings with it.
theorem ended (since : Since source feeds laterFeeds groupings laterGroupings) : Since source feeds [] groupings [] := by
  obtain ⟨⟨before, feed, after, rfl, fires, _⟩, _⟩ := since
  exact ⟨⟨before, feed, after, rfl, fires, List.nil_sublist _⟩, [], List.nil_sublist _, .nil⟩

theorem under (since : Since source feeds laterFeeds groupings laterGroupings) {before after : Grouping}
    (took : before.TookOne after) : Since source feeds laterFeeds (before :: groupings) (after :: laterGroupings) := by
  obtain ⟨pulled, kept, sub, others⟩ := since
  exact ⟨pulled, before :: kept, sub.cons_cons before, .cons took others⟩

end Since

-- A pull, and the same one broken off where the run is called off: the same if that does not happen, and otherwise what
-- may still happen after it.
inductive Breaks {σ : Type} (source : Pull Feed) (feeds : σ → List Feed) (groupings : σ → List Grouping)
    (call moment : Pulled σ) : Prop
  | quiet (same : call = moment) (running : moment.cancelled = false)
  | calledOff {failure : Failure} (answer : moment.answer = .error failure) (signal : call.cancelled = true)
      (stopped : moment.cancelled = true)
      (since : Since source (feeds moment.stream) (feeds call.stream) (groupings moment.stream) (groupings call.stream))

theorem Breaks.within {σ τ : Type} {source : Pull Feed} {feeds : σ → List Feed} {groupings : σ → List Grouping}
    {call moment : Pulled σ} (breaks : Breaks source feeds groupings call moment) {wrap : σ → τ}
    {feedsOf : τ → List Feed} {groupingsOf : τ → List Grouping} (sameFeeds : ∀ stream, feedsOf (wrap stream) = feeds stream)
    (sameGroupings : ∀ stream, groupingsOf (wrap stream) = groupings stream) :
    Breaks source feedsOf groupingsOf (call.map wrap) (moment.map wrap) := by
  cases breaks with
  | quiet same running => exact .quiet (congrArg (Pulled.map wrap) same) running
  | calledOff answer signal stopped since =>
    refine .calledOff answer signal stopped ?_
    simpa only [Pulled.map, sameFeeds, sameGroupings] using since

section

variable {σ : Type} {next other : Pull σ} {stream : σ}

namespace Pull

theorem filter_stopped (next : Pull σ) (predicate : Formula) (fuel : Nat) (stream : σ) :
    Pull.filter next predicate fuel stream true = ⟨stopped .filter, stream, true⟩ := by
  rw [Pull.filter.eq_def]
  rfl

theorem rotation_stopped (next : Pull σ) (rotation : Rotation σ) :
    Rotation.pull next rotation true =
      ⟨if rotation.streams = [] then .ok none else stopped .unionAll, rotation, true⟩ := by
  obtain ⟨streams, cursor⟩ := rotation
  unfold Rotation.pull
  cases streams with
  | nil => rfl
  | cons stream streams =>
    have inside : cursor % (stream :: streams).length < (stream :: streams).length := Nat.mod_lt _ (Nat.succ_pos _)
    rw [List.length_cons, Rotation.pullWithin]
    simp only [List.getElem?_eq_getElem inside]
    rfl

theorem absorb_stopped (next : Pull σ) (fuel : Nat) (grouped : Grouped σ) :
    Grouped.absorb next fuel grouped true = grouped.fail (Failure.of (.stopped .groupBy)) true := by
  rw [Grouped.absorb.eq_def]
  rfl

theorem grouped_stopped (remaining : σ → Nat) (grouped : Grouped σ) :
    ∃ answer phase, Answer.Silent answer ∧
      ∀ next : Pull σ, Grouped.pull next remaining grouped true = ⟨answer, grouped.inPhase phase, true⟩ := by
  unfold Grouped.pull
  obtain ⟨⟨spec, table, phase, drained⟩, below⟩ := grouped
  cases phase with
  | «open» =>
    refine ⟨stopped .groupBy, .failed, Answer.silent_error _, fun next => ?_⟩
    dsimp only
    split <;> exact absorb_stopped next _ _
  | draining =>
    cases mode : spec.emitMode with
    | changelog => exact ⟨.ok none, .closed, Answer.silent_none, fun _ => by simp [Grouped.drain, mode]⟩
    | final =>
      refine ⟨stopped .groupBy, .failed, Answer.silent_error _, fun _ => ?_⟩
      simp only [Grouped.drain, mode]
      rfl
  | closed => exact ⟨.ok none, .closed, Answer.silent_none, fun _ => rfl⟩
  | failed => exact ⟨.error (Failure.of .pulledAfterFailure), .failed, Answer.silent_error _, fun _ => rfl⟩

theorem filter_alike (same : next stream false = other stream false) (predicate : Formula) (fuel : Nat) :
    (Pull.filter next predicate fuel stream false = Pull.filter other predicate fuel stream false ∧
        (Pull.filter other predicate fuel stream false).cancelled = (other stream false).cancelled) ∨
      ∃ less, fuel = less + 1 ∧
        Pull.filter next predicate fuel stream false =
          Pull.filter next predicate less (other stream false).stream (other stream false).cancelled ∧
        Pull.filter other predicate fuel stream false =
          Pull.filter other predicate less (other stream false).stream (other stream false).cancelled := by
  rw [Pull.filter.eq_def next, Pull.filter.eq_def other]
  dsimp only
  rw [if_neg Bool.false_ne_true, if_neg Bool.false_ne_true, same]
  split
  · split
    · exact .inl ⟨rfl, rfl⟩
    · split
      · exact .inl ⟨rfl, rfl⟩
      · cases fuel with
        | zero => exact .inl ⟨rfl, rfl⟩
        | succ less => exact .inr ⟨less, rfl, rfl, rfl⟩
  · exact .inl ⟨rfl, rfl⟩

theorem filter_last (signal : (next stream false).cancelled = true) (predicate : Formula) (fuel : Nat) :
    ∃ answer, Pull.filter next predicate fuel stream false = ⟨answer, (next stream false).stream, true⟩ := by
  rcases filter_once next predicate fuel stream with ⟨answer, pulled, _⟩ | ⟨less, _, goesOn⟩
  · exact ⟨answer, by rw [pulled, ← signal]⟩
  · exact ⟨stopped .filter, by rw [goesOn, signal, filter_stopped]⟩

theorem map_once (next : Pull σ) (projection : Projection) (stream : σ) :
    ∃ answer, Pull.map next projection stream false = { next stream false with answer } := by
  unfold Pull.map
  rw [if_neg Bool.false_ne_true]
  dsimp only
  split <;> exact ⟨_, rfl⟩

theorem answering_signal (grouped : Grouped σ) (row : Except Failure Record) (cancelled : Bool) :
    (grouped.answering row cancelled).cancelled = cancelled := by
  cases row <;> rfl

theorem drain_signal (grouped : Grouped σ) (cancelled : Bool) : (grouped.drain cancelled).cancelled = cancelled := by
  have drained := Grouped.drain_cases grouped cancelled
  generalize grouped.drain cancelled = pulled at drained
  cases drained <;> rfl

theorem absorb_alike {grouped : Grouped σ} (same : next grouped.source false = other grouped.source false) (fuel : Nat) :
    (Grouped.absorb next fuel grouped false = Grouped.absorb other fuel grouped false ∧
        (Grouped.absorb other fuel grouped false).cancelled = (other grouped.source false).cancelled) ∨
      ∃ less taken, fuel = less + 1 ∧
        Grouped.absorb next fuel grouped false = Grouped.absorb next less taken (other grouped.source false).cancelled ∧
        Grouped.absorb other fuel grouped false =
          Grouped.absorb other less taken (other grouped.source false).cancelled := by
  rw [Grouped.absorb.eq_def next, Grouped.absorb.eq_def other]
  dsimp only
  rw [if_neg Bool.false_ne_true, if_neg Bool.false_ne_true, same]
  split
  · exact .inl ⟨rfl, rfl⟩
  · exact .inl ⟨rfl, drain_signal _ _⟩
  · split
    · exact .inl ⟨rfl, rfl⟩
    · split
      · exact .inl ⟨rfl, answering_signal _ _ _⟩
      · exact .inl ⟨rfl, rfl⟩
      · exact .inr ⟨_, _, rfl, rfl, rfl⟩

theorem absorb_last {grouped : Grouped σ} (signal : (next grouped.source false).cancelled = true) (fuel : Nat) :
    (Grouped.absorb next fuel grouped false).cancelled = true ∧
      (Grouped.absorb next fuel grouped false).stream.source = (next grouped.source false).stream ∧
      grouped.grouping.TookOne (Grouped.absorb next fuel grouped false).stream.grouping := by
  rcases Grouped.absorb_step next fuel grouped false with
    ending | ⟨record, group, less, answer, accepted, final, _, goesOn⟩
  · generalize Grouped.absorb next fuel grouped false = pulled at ending
    cases ending with
    | stopped calledOff => cases calledOff
    | failed answer => exact ⟨signal, rfl, rfl, .inl rfl⟩
    | ended answer =>
      refine ⟨(drain_signal _ _).trans signal, (Grouped.drain_cases _ _).source, ?_, .inl ?_⟩
      · exact (Grouped.drain_cases _ _).table.2
      · exact (Grouped.drain_cases _ _).table.1
    | rejected answer rejection => exact ⟨signal, rfl, rfl, .inl rfl⟩
    | @row record group answer accepted changelog =>
      obtain ⟨row, built⟩ := group.row_exists grouped.grouping.spec record.kind
      rw [built]
      exact ⟨signal, rfl, rfl, .inr ⟨record, rfl⟩⟩
    | @endless record group answer accepted final => exact ⟨signal, rfl, rfl, .inr ⟨record, rfl⟩⟩
  · rw [goesOn, signal, absorb_stopped]
    exact ⟨rfl, rfl, rfl, .inr ⟨record, rfl⟩⟩

end Pull

-- Ways of pulling that differ at most once the run has been called off. Every stage looks for that before it pulls what is
-- below it, so the difference does not reach it.
def Pull.AlikeTillOff (next other : Pull σ) : Prop := ∀ stream, next stream false = other stream false

namespace Pull.AlikeTillOff

variable (alike : next.AlikeTillOff other)

include alike in
theorem scan (name : String) : (Pull.scan next name).AlikeTillOff (Pull.scan other name) := by
  intro stream
  unfold Pull.scan
  rw [alike stream]

include alike in
theorem map (projection : Projection) : (Pull.map next projection).AlikeTillOff (Pull.map other projection) := by
  intro stream
  unfold Pull.map
  rw [alike stream]

include alike in
theorem filter (predicate : Formula) (fuel : Nat) :
    (Pull.filter next predicate fuel).AlikeTillOff (Pull.filter other predicate fuel) := by
  intro stream
  induction fuel using Nat.strong_induction_on generalizing stream with
  | _ fuel ih =>
    rcases Pull.filter_alike (alike stream) predicate fuel with ⟨same, _⟩ | ⟨less, rfl, goesOn, otherGoesOn⟩
    · exact same
    · rw [goesOn, otherGoesOn]
      cases (other stream false).cancelled with
      | false => exact ih less (Nat.lt_succ_self less) _
      | true => rw [Pull.filter_stopped, Pull.filter_stopped]

include alike in
theorem union : (Rotation.pull next).AlikeTillOff (Rotation.pull other) := by
  rintro ⟨streams, cursor⟩
  generalize size : streams.length = length
  induction length generalizing streams cursor with
  | zero =>
    cases List.length_eq_zero_iff.mp size
    rfl
  | succ length ih =>
    rcases Pull.rotation_cases streams cursor with rfl | ⟨before, stream, after, rfl, turn⟩
    · cases size
    · rw [Pull.rotation_turn turn, Pull.rotation_turn turn, alike stream]
      split
      · rfl
      · cases (other stream false).cancelled with
        | false => exact ih _ _ (by simp at size ⊢; omega)
        | true => rw [Pull.rotation_stopped, Pull.rotation_stopped]
      · rfl

include alike in
theorem absorb (fuel : Nat) : (Grouped.absorb next fuel).AlikeTillOff (Grouped.absorb other fuel) := by
  intro grouped
  induction fuel using Nat.strong_induction_on generalizing grouped with
  | _ fuel ih =>
    rcases Pull.absorb_alike (alike grouped.source) fuel with ⟨same, _⟩ | ⟨less, taken, rfl, goesOn, otherGoesOn⟩
    · exact same
    · rw [goesOn, otherGoesOn]
      cases (other grouped.source false).cancelled with
      | false => exact ih less (Nat.lt_succ_self less) taken
      | true => rw [Pull.absorb_stopped, Pull.absorb_stopped]

include alike in
theorem grouped (remaining : σ → Nat) :
    (Grouped.pull next remaining).AlikeTillOff (Grouped.pull other remaining) := by
  intro grouped
  unfold Grouped.pull
  split
  · rfl
  · rfl
  · rfl
  · split <;> exact alike.absorb _ grouped

end Pull.AlikeTillOff

variable {source : Pull Feed} {feeds : σ → List Feed} {groupings : σ → List Grouping}

def Pull.BreaksOff (source : Pull Feed) (feeds : σ → List Feed) (groupings : σ → List Grouping) (next broken : Pull σ) :
    Prop := ∀ stream, Breaks source feeds groupings (next stream false) (broken stream false)

namespace Pull.BreaksOff

theorem feed (source : Pull Feed) : BreaksOff source (fun feed => [feed]) (fun _ => []) source source.brokenOff := by
  intro feed
  cases fires : (source feed false).cancelled with
  | false =>
    have same : source feed false = source.brokenOff feed false := by simp [Pull.brokenOff, fires]
    exact .quiet same (same ▸ fires)
  | true =>
    have stopped : source.brokenOff feed false = ⟨.error (Failure.of (.stopped .scan)), feed, true⟩ := by
      simp [Pull.brokenOff, fires]
    rw [stopped]
    exact .calledOff rfl fires rfl ⟨⟨[], feed, [], rfl, fires, List.Sublist.refl _⟩, [], List.Sublist.refl _, .nil⟩

variable {broken : Pull σ} (breaks : Pull.BreaksOff source feeds groupings next broken)

include breaks in
theorem scan (name : String) : Pull.BreaksOff source feeds groupings (Pull.scan next name) (Pull.scan broken name) := by
  intro stream
  have pulled (next : Pull σ) : Pull.scan next name stream false =
      { next stream false with answer := (Place.reading name).around (next stream false).answer } := rfl
  rw [pulled next, pulled broken]
  cases breaks stream with
  | quiet same running => exact .quiet (by rw [same]) running
  | calledOff answer signal stopped since =>
    exact .calledOff (by rw [answer]; rfl) signal stopped since

include breaks in
theorem map (projection : Projection) :
    Pull.BreaksOff source feeds groupings (Pull.map next projection) (Pull.map broken projection) := by
  intro stream
  cases breaks stream with
  | quiet same running =>
    obtain ⟨answer, pulled⟩ := Pull.map_once broken projection stream
    refine .quiet ?_ (by rw [pulled]; exact running)
    unfold Pull.map
    rw [same]
  | calledOff answer signal stopped since =>
    obtain ⟨given, pulled⟩ := Pull.map_once next projection stream
    have failed : Pull.map broken projection stream false = broken stream false := by simp [Pull.map, answer]
    rw [pulled, failed]
    exact .calledOff answer signal stopped since

include breaks in
theorem filter (predicate : Formula) (fuel : Nat) :
    Pull.BreaksOff source feeds groupings (Pull.filter next predicate fuel) (Pull.filter broken predicate fuel) := by
  intro stream
  induction fuel using Nat.strong_induction_on generalizing stream with
  | _ fuel ih =>
    cases breaks stream with
    | quiet same running =>
      rcases Pull.filter_alike same predicate fuel with ⟨alike, signal⟩ | ⟨less, rfl, goesOn, brokenGoesOn⟩
      · exact .quiet alike (signal.trans running)
      · rw [goesOn, brokenGoesOn, running]
        exact ih less (Nat.lt_succ_self less) _
    | calledOff answer signal halted since =>
      obtain ⟨given, last⟩ := Pull.filter_last signal predicate fuel
      rw [Pull.filter_of_failed answer, last]
      exact .calledOff answer rfl halted since

include breaks in
theorem union :
    Pull.BreaksOff source (fun rotation => rotation.streams.flatMap feeds)
      (fun rotation => rotation.streams.flatMap groupings) (Rotation.pull next) (Rotation.pull broken) := by
  rintro ⟨streams, cursor⟩
  generalize size : streams.length = length
  induction length generalizing streams cursor with
  | zero =>
    cases List.length_eq_zero_iff.mp size
    exact .quiet rfl rfl
  | succ length ih =>
    rcases Pull.rotation_cases streams cursor with rfl | ⟨before, stream, after, rfl, turn⟩
    · cases size
    · rw [Pull.rotation_turn turn, Pull.rotation_turn turn]
      cases breaks stream with
      | quiet same running =>
        rw [same]
        split
        · exact .quiet rfl running
        · rw [running]
          exact ih _ _ (by simp at size ⊢; omega)
        · exact .quiet rfl running
      | calledOff answer signal halted since =>
        rw [answer]
        -- The streams beside this one are not pulled, whether or not it leaves.
        have beside {laterFeeds : List Feed} {laterGroupings : List Grouping}
            (since : Since source (feeds (broken stream false).stream) laterFeeds
              (groupings (broken stream false).stream) laterGroupings) :=
          since.among (before.flatMap feeds) (after.flatMap feeds) (before.flatMap groupings) (after.flatMap groupings)
        split
        · exact .calledOff rfl signal halted (by simpa using beside since)
        · rw [signal, Pull.rotation_stopped]
          exact .calledOff rfl rfl halted (by simpa using beside since.ended)
        · exact .calledOff rfl signal halted (by simpa using beside since)

include breaks in
theorem absorb (fuel : Nat) :
    Pull.BreaksOff source (fun grouped => feeds grouped.source)
      (fun grouped => grouped.grouping :: groupings grouped.source) (Grouped.absorb next fuel)
      (Grouped.absorb broken fuel) := by
  intro grouped
  induction fuel using Nat.strong_induction_on generalizing grouped with
  | _ fuel ih =>
    cases breaks grouped.source with
    | quiet same running =>
      rcases Pull.absorb_alike same fuel with ⟨alike, signal⟩ | ⟨less, taken, rfl, goesOn, brokenGoesOn⟩
      · exact .quiet alike (signal.trans running)
      · rw [goesOn, brokenGoesOn, running]
        exact ih less (Nat.lt_succ_self less) taken
    | @calledOff failure answer signal halted since =>
      obtain ⟨off, below, took⟩ := Pull.absorb_last signal fuel
      have failed : Grouped.absorb broken fuel grouped false =
          (grouped.taken grouped.grouping.table (broken grouped.source false).stream).fail failure
            (broken grouped.source false).cancelled := by
        rw [Grouped.absorb.eq_def]
        simp only [answer]
        rfl
      rw [failed]
      refine .calledOff rfl off halted ?_
      rw [below]
      exact since.under took

include breaks in
theorem grouped (remaining : σ → Nat) :
    Pull.BreaksOff source (fun grouped => feeds grouped.source)
      (fun grouped => grouped.grouping :: groupings grouped.source) (Grouped.pull next remaining)
      (Grouped.pull broken remaining) := by
  intro grouped
  unfold Grouped.pull
  split
  · exact .quiet rfl rfl
  · exact .quiet rfl rfl
  · exact .quiet rfl (Pull.drain_signal grouped false)
  · split <;> exact breaks.absorb _ grouped

end Pull.BreaksOff

end

end DeltaQuery
