import DeltaQuery.Proofs.EmitModes

namespace DeltaQuery

structure Listing where
  records : List Record
  outcome : Except Failure Unit

namespace Listing

def cons (record : Record) (listing : Listing) : Listing := { listing with records := record :: listing.records }

def around (place : Place) (listing : Listing) : Listing := { listing with outcome := place.around listing.outcome }

-- What a step makes of one record after the other, up to the first at which it fails.
def through (step : Record → Except Failure (Option Record)) (outcome : Except Failure Unit) : List Record → Listing
  | [] => ⟨[], outcome⟩
  | record :: records =>
    match step record with
    | .error failure => ⟨[], .error failure⟩
    | .ok none => through step outcome records
    | .ok (some made) => (through step outcome records).cons made

section

variable {step : Record → Except Failure (Option Record)} {outcome : Except Failure Unit}
variable {record : Record} {records : List Record}

theorem through_of_failed {failure : Failure} (failed : step record = .error failure) :
    through step outcome (record :: records) = ⟨[], .error failure⟩ := by
  simp [through, failed]

theorem through_of_dropped (dropped : step record = .ok none) :
    through step outcome (record :: records) = through step outcome records := by
  simp [through, dropped]

theorem through_of_made {made : Record} (gives : step record = .ok (some made)) :
    through step outcome (record :: records) = (through step outcome records).cons made := by
  simp [through, gives]

end

-- One record from each listing in turn, in rounds: those before have had their turn in this round, those after have
-- not. A listing leaves when it has ended, and the first that fails is named by its place among those still there.
def inTurn : (before after : List Listing) → Listing
  | [], [] => ⟨[], .ok ()⟩
  | first :: before, [] => inTurn [] (first :: before)
  | before, ⟨record :: records, outcome⟩ :: after => (inTurn (before ++ [⟨records, outcome⟩]) after).cons record
  | before, ⟨[], .ok ()⟩ :: after => inTurn before after
  | before, ⟨[], .error failure⟩ :: _ => ⟨[], .error (failure.within (.unionChild before.length))⟩
termination_by before after =>
  (((before ++ after).map (·.records.length)).sum, (before ++ after).length, before.length)

end Listing

-- The records that a predicate is true of; false, NULL and all other values drop a record.
def Formula.keep (predicate : Formula) (record : Record) : Except Failure (Option Record) :=
  (Place.filterPredicate.around (failing (predicate.evaluate record))).map fun verdict =>
    if verdict = .bool true then some record else none

namespace Formula

variable {predicate : Formula} {record kept : Record}

theorem keep_eq_some : predicate.keep record = .ok (some kept) ↔
    predicate.evaluate record = .ok (.bool true) ∧ record = kept := by
  unfold keep
  cases predicate.evaluate record with
  | error cause => simp [Except.map]
  | ok verdict => by_cases holds : verdict = .bool true <;> simp [Except.map, holds]

theorem keep_eq_none : predicate.keep record = .ok none ↔
    ∃ verdict, predicate.evaluate record = .ok verdict ∧ verdict ≠ .bool true := by
  unfold keep
  cases predicate.evaluate record with
  | error cause => simp [Except.map]
  | ok verdict => simp [Except.map]

theorem keep_eq_error {failure : Failure} : predicate.keep record = .error failure ↔
    ∃ cause, predicate.evaluate record = .error cause ∧ (Failure.of cause).within .filterPredicate = failure := by
  unfold keep
  cases predicate.evaluate record <;> simp [Except.map]

end Formula

def Script.listing (script : Script) : Listing :=
  match script.failAt with
  | none => ⟨script.pending, .ok ()⟩
  | some pull =>
    if script.pulls ≤ pull ∧ pull - script.pulls ≤ script.pending.length then
      ⟨script.pending.take (pull - script.pulls), .error (Failure.of (.scriptedPull pull))⟩
    else ⟨script.pending, .ok ()⟩

variable {σ τ : Type} {next : Pull σ} {stream : σ} {listing : Listing}

def Pull.Lists (next : Pull σ) (stream : σ) (listing : Listing) : Prop :=
  next.Runs stream listing.records listing.outcome

namespace Pull

theorem Lists.ended (answer : (next stream false).answer = .ok none) (running : (next stream false).cancelled = false) :
    next.Lists stream ⟨[], .ok ()⟩ := Runs.ended answer running

theorem Lists.failed {failure : Failure} (answer : (next stream false).answer = .error failure) :
    next.Lists stream ⟨[], .error failure⟩ := Runs.failed answer

theorem Lists.record {record : Record} (answer : (next stream false).answer = .ok (some record))
    (running : (next stream false).cancelled = false) (rest : next.Lists (next stream false).stream listing) :
    next.Lists stream (listing.cons record) := Runs.record answer running rest

theorem scan_lists (lists : next.Lists stream listing) (name : String) :
    (Pull.scan next name).Lists stream (listing.around (.reading name)) := by
  obtain ⟨records, outcome⟩ := listing
  change next.Runs stream records outcome at lists
  have pulled (stream : σ) : Pull.scan next name stream false =
      { next stream false with answer := (Place.reading name).around (next stream false).answer } := rfl
  induction lists with
  | ended answer running => exact .ended (by simp [pulled, answer]) (by simp [pulled, running])
  | failed answer => exact .failed (by simp [pulled, answer])
  | record answer running rest ih =>
    exact .record (by simp [pulled, answer]) (by simp [pulled, running]) ih

end Pull

namespace Script

theorem listing_of_fails {script : Script} (fails : script.failAt = some script.pulls) :
    script.listing = ⟨[], .error (Failure.of (.scriptedPull script.pulls))⟩ := by
  simp [listing, fails]

theorem listing_of_end {script : Script} (goes : script.failAt ≠ some script.pulls) (done : script.pending = []) :
    script.listing = ⟨[], .ok ()⟩ := by
  unfold listing
  cases failAt : script.failAt with
  | none => simp [done]
  | some pull =>
    have elsewhere : pull ≠ script.pulls := fun same => goes (by rw [failAt, same])
    have outside : ¬ (script.pulls ≤ pull ∧ pull - script.pulls ≤ script.pending.length) := by
      rw [done, List.length_nil]
      omega
    dsimp only
    rw [if_neg outside, done]

theorem listing_of_record {script : Script} {record : Record} {pending : List Record}
    (goes : script.failAt ≠ some script.pulls) (more : script.pending = record :: pending) :
    script.listing = ({ script with pulls := script.pulls + 1, pending } : Script).listing.cons record := by
  unfold listing
  cases failAt : script.failAt with
  | none => simp [more, Listing.cons]
  | some pull =>
    have elsewhere : pull ≠ script.pulls := fun same => goes (by rw [failAt, same])
    have length : script.pending.length = pending.length + 1 := by rw [more, List.length_cons]
    by_cases inside : script.pulls ≤ pull ∧ pull - script.pulls ≤ script.pending.length
    · obtain ⟨ahead, near⟩ := inside
      obtain ⟨left, rfl⟩ : ∃ left, pull = script.pulls + 1 + left := ⟨pull - script.pulls - 1, by omega⟩
      have step : script.pulls + 1 + left - script.pulls = left + 1 := by omega
      have stepLater : script.pulls + 1 + left - (script.pulls + 1) = left := by omega
      have later : script.pulls + 1 ≤ script.pulls + 1 + left ∧ left ≤ pending.length := by omega
      dsimp only
      rw [step, stepLater, if_pos ⟨ahead, step ▸ near⟩, if_pos later, more, List.take_succ_cons]
      rfl
    · have outside : ¬ (script.pulls + 1 ≤ pull ∧ pull - (script.pulls + 1) ≤ pending.length) := by omega
      dsimp only
      rw [if_neg inside, if_neg outside, more]
      rfl

theorem pull_lists (script : Script) (calm : script.cancelAt = none) : Script.pull.Lists script script.listing := by
  obtain ⟨pending, pulls, cancelAt, failAt⟩ := script
  cases calm
  induction pending generalizing pulls with
  | nil =>
    by_cases fails : failAt = some pulls
    · rw [listing_of_fails fails]
      exact .failed (by simp [Script.pull, fails])
    · rw [listing_of_end fails rfl]
      exact .ended (by simp [Script.pull, fails]) (by simp [Script.pull, fails])
  | cons record pending ih =>
    by_cases fails : failAt = some pulls
    · rw [listing_of_fails fails]
      exact .failed (by simp [Script.pull, fails])
    · rw [listing_of_record fails rfl]
      refine .record (by simp [Script.pull, fails]) (by simp [Script.pull, fails]) ?_
      simpa [Script.pull, fails] using ih (pulls + 1)

end Script

namespace Pull

variable {records : List Record} {outcome : Except Failure Unit} {left : σ → Nat}

theorem map_lists (lists : next.Lists stream listing) (projection : Projection) :
    (Pull.map next projection).Lists stream
      (Listing.through (fun record => (projection.apply record).map some) listing.outcome listing.records) := by
  obtain ⟨records, outcome⟩ := listing
  change next.Runs stream records outcome at lists
  induction lists with
  | ended answer running => exact .ended (by simp [Pull.map, answer]) (by simp [Pull.map, answer, running])
  | failed answer => exact .failed (by simp [Pull.map, answer])
  | @record stream record records outcome answer running rest ih =>
    cases applied : projection.apply record with
    | error failure =>
      rw [Listing.through_of_failed (by rw [applied]; rfl)]
      exact .failed (by simp [Pull.map, answer, applied, Except.map])
    | ok row =>
      rw [Listing.through_of_made (by rw [applied]; rfl)]
      refine .record (by simp [Pull.map, answer, applied, Except.map]) (by simp [Pull.map, answer, running]) ?_
      simpa [Pull.map, answer] using ih

section

variable {predicate : Formula} {record : Record}

theorem filter_once (next : Pull σ) (predicate : Formula) (fuel : Nat) (stream : σ) :
    (∃ answer, Pull.filter next predicate fuel stream false = { next stream false with answer } ∧
        (answer = .ok none → (next stream false).answer = .ok none)) ∨
      ∃ less, fuel = less + 1 ∧ Pull.filter next predicate fuel stream false =
        Pull.filter next predicate less (next stream false).stream (next stream false).cancelled := by
  rw [Pull.filter.eq_def next predicate fuel]
  dsimp only
  rw [if_neg Bool.false_ne_true]
  split
  · split
    · exact .inl ⟨_, rfl, fun ended => by cases ended⟩
    · split
      · exact .inl ⟨_, rfl, id⟩
      · cases fuel with
        | zero => exact .inl ⟨_, rfl, fun ended => by cases ended⟩
        | succ less => exact .inr ⟨less, rfl, rfl⟩
  · exact .inl ⟨_, rfl, id⟩

theorem filter_of_failed {failure : Failure} (answer : (next stream false).answer = .error failure) (fuel : Nat) :
    Pull.filter next predicate fuel stream false = next stream false := by
  simp [Pull.filter.eq_def next predicate fuel, answer]

theorem filter_of_end (answer : (next stream false).answer = .ok none) (fuel : Nat) :
    Pull.filter next predicate fuel stream false = next stream false := by
  simp [Pull.filter.eq_def next predicate fuel, answer]

theorem filter_of_kept (answer : (next stream false).answer = .ok (some record)) {kept : Record}
    (keeps : predicate.keep record = .ok (some kept)) (fuel : Nat) :
    Pull.filter next predicate fuel stream false = next stream false := by
  obtain ⟨holds, rfl⟩ := Formula.keep_eq_some.mp keeps
  simp [Pull.filter.eq_def next predicate fuel, answer, holds]

theorem filter_of_unknown (answer : (next stream false).answer = .ok (some record)) {failure : Failure}
    (unknown : predicate.keep record = .error failure) (fuel : Nat) :
    Pull.filter next predicate fuel stream false = { next stream false with answer := .error failure } := by
  obtain ⟨cause, fails, rfl⟩ := Formula.keep_eq_error.mp unknown
  simp [Pull.filter.eq_def next predicate fuel, answer, fails]

theorem filter_of_dropped (answer : (next stream false).answer = .ok (some record))
    (dropped : predicate.keep record = .ok none) (fuel : Nat) :
    Pull.filter next predicate (fuel + 1) stream false =
      Pull.filter next predicate fuel (next stream false).stream (next stream false).cancelled := by
  obtain ⟨verdict, evaluated, fails⟩ := Formula.keep_eq_none.mp dropped
  rw [Pull.filter.eq_def next predicate (fuel + 1)]
  simp [answer, evaluated, fails]

-- A filter that can pull as often as there are records comes to the same with more fuel.
theorem filter_enough (runs : next.Runs stream records outcome) {fuel : Nat} (enough : records.length ≤ fuel) :
    Pull.filter next predicate fuel stream false = Pull.filter next predicate records.length stream false := by
  induction runs generalizing fuel with
  | ended answer running => rw [filter_of_end answer, filter_of_end answer]
  | failed answer => rw [filter_of_failed answer, filter_of_failed answer]
  | @record stream record records outcome answer running rest ih =>
    cases keeps : predicate.keep record with
    | error failure => rw [filter_of_unknown answer keeps, filter_of_unknown answer keeps]
    | ok kept =>
      cases kept with
      | some kept => rw [filter_of_kept answer keeps, filter_of_kept answer keeps]
      | none =>
        obtain ⟨less, rfl⟩ : ∃ less, fuel = less + 1 := ⟨fuel - 1, by rw [List.length_cons] at enough; omega⟩
        rw [List.length_cons, filter_of_dropped answer keeps, filter_of_dropped answer keeps, running]
        exact ih (Nat.le_of_succ_le_succ enough)

theorem filter_lists (bounds : next.Bounds left) (lists : next.Lists stream listing) (predicate : Formula) :
    Pull.Lists (fun stream => Pull.filter next predicate (left stream) stream) stream
      (Listing.through predicate.keep listing.outcome listing.records) := by
  obtain ⟨records, outcome⟩ := listing
  change next.Runs stream records outcome at lists
  induction lists with
  | @ended stream answer running =>
    have pulled := @filter_of_end _ next stream predicate answer (left stream)
    exact .ended (by rw [pulled, answer]) (by rw [pulled, running])
  | @failed stream failure answer =>
    have pulled := @filter_of_failed _ next stream predicate _ answer (left stream)
    exact .failed (by rw [pulled, answer])
  | @record stream record records outcome answer running rest ih =>
    cases keeps : predicate.keep record with
    | error failure =>
      rw [Listing.through_of_failed keeps]
      exact .failed (by rw [filter_of_unknown answer keeps])
    | ok kept =>
      cases kept with
      | some kept =>
        obtain ⟨_, rfl⟩ := Formula.keep_eq_some.mp keeps
        have pulled := filter_of_kept answer keeps (left stream)
        rw [Listing.through_of_made keeps]
        exact .record (by rw [pulled, answer]) (by rw [pulled, running]) (by rw [pulled]; exact ih)
      | none =>
        rw [Listing.through_of_dropped keeps]
        -- The pull goes on below as the next one would, with fuel that is as good.
        refine Runs.start ih ?_
        have less := bounds stream false
        rw [answer] at less
        obtain ⟨fuel, same⟩ : ∃ fuel, left stream = fuel + 1 :=
          ⟨left stream - 1, by simp only [Answer.size] at less; omega⟩
        have enough := rest.length_le bounds
        rw [same, filter_of_dropped answer keeps, running, filter_enough rest enough, filter_enough rest]
        simp only [Answer.size] at less
        omega

end

theorem rotation_turn {before after : List σ} {cursor : Nat}
    (turn : cursor % (before ++ stream :: after).length = before.length % (before ++ stream :: after).length) :
    Rotation.pull next ⟨before ++ stream :: after, cursor⟩ false =
      match (next stream false).answer with
      | .ok (some record) =>
        ⟨.ok (some record), ⟨before ++ (next stream false).stream :: after, before.length + 1⟩,
          (next stream false).cancelled⟩
      | .ok none => Rotation.pull next ⟨before ++ after, before.length⟩ (next stream false).cancelled
      | .error failure =>
        ⟨.error (failure.within (.unionChild before.length)),
          ⟨before ++ (next stream false).stream :: after, cursor⟩, (next stream false).cancelled⟩ := by
  have here : cursor % (before ++ stream :: after).length = before.length := turn.trans (Nat.mod_eq_of_lt (by simp))
  have turns : (before ++ stream :: after).length = (before ++ after).length + 1 := by simp; omega
  have found : (before ++ stream :: after)[before.length]? = some stream := by simp
  have rest : (before ++ stream :: after).eraseIdx before.length = before ++ after := by
    simp [List.eraseIdx_append_of_length_le]
  have changed (stream' : σ) : (before ++ stream :: after).set before.length stream' = before ++ stream' :: after := by
    simp
  unfold Rotation.pull
  dsimp only
  rw [turns, Rotation.pullWithin]
  dsimp only
  rw [here, found]
  dsimp only
  rw [rest, changed]
  rfl

theorem rotation_cases (streams : List σ) (cursor : Nat) :
    streams = [] ∨ ∃ before stream after, streams = before ++ stream :: after ∧
      cursor % (before ++ stream :: after).length = before.length % (before ++ stream :: after).length := by
  by_cases none : streams = []
  · exact .inl none
  · have inside : cursor % streams.length < streams.length := Nat.mod_lt _ (List.length_pos_iff.mpr none)
    have whole : streams = streams.take (cursor % streams.length) ++
        streams[cursor % streams.length] :: streams.drop (cursor % streams.length + 1) := by
      rw [← List.drop_eq_getElem_cons inside, List.take_append_drop]
    refine .inr ⟨_, _, _, whole, ?_⟩
    rw [← whole, List.length_take, Nat.min_eq_left (Nat.le_of_lt inside), Nat.mod_mod]

abbrev ListsEach (next : Pull σ) : List σ → List Listing → Prop := List.Forall₂ next.Lists

theorem rotation_lists {before after : List Listing} {served waiting : List σ} {cursor : Nat}
    (done : next.ListsEach served before) (todo : next.ListsEach waiting after)
    (turn : cursor % (served ++ waiting).length = served.length % (served ++ waiting).length) :
    (Rotation.pull next).Lists ⟨served ++ waiting, cursor⟩ (Listing.inTurn before after) := by
  induction before, after using Listing.inTurn.induct generalizing served waiting cursor with
  | case1 =>
    cases done
    cases todo
    rw [Listing.inTurn]
    exact .ended rfl rfl
  | case2 first before ih =>
    cases todo
    rw [Listing.inTurn]
    -- A round is over, and the cursor is at the end of it, which is where the next one starts.
    refine Runs.start (ih .nil done ?_) (by rw [List.append_nil, List.nil_append])
    simpa using turn
  | case3 before record records outcome after ih =>
    obtain _ | @⟨stream, _, waiting, _, lists, others⟩ := todo
    rw [Listing.inTurn]
    have pulled := @rotation_turn σ next _ _ _ _ turn
    cases lists with
    | record answer running rest =>
      rw [answer] at pulled
      refine .record (by rw [pulled]) (by rw [pulled]; exact running) ?_
      rw [pulled]
      have advanced : (served.length + 1) % (served ++ [(next stream false).stream] ++ waiting).length =
          (served ++ [(next stream false).stream]).length % (served ++ [(next stream false).stream] ++ waiting).length := by
        simp
      simpa using ih (List.rel_append done (.cons rest .nil)) others advanced
  | case4 before after ih =>
    obtain _ | @⟨stream, _, waiting, _, lists, others⟩ := todo
    rw [Listing.inTurn]
    have pulled := @rotation_turn σ next _ _ _ _ turn
    cases lists with
    | ended answer running =>
      rw [answer, running] at pulled
      exact Runs.start (ih done others rfl) pulled
  | case5 before failure after =>
    obtain _ | @⟨stream, _, waiting, _, lists, others⟩ := todo
    rw [Listing.inTurn]
    have pulled := @rotation_turn σ next _ _ _ _ turn
    cases lists with
    | failed answer =>
      rw [answer] at pulled
      rw [← done.length_eq]
      exact .failed (by rw [pulled])

end Pull

end DeltaQuery
