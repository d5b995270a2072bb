import DeltaQuery.Proofs.Compiling
import DeltaQuery.Proofs.FairMerge

namespace DeltaQuery

variable {σ : Type} {next : Pull σ} {streams : List σ}

-- The same pull of a stream beside the place that it had when the union was built.
def Pull.placed (next : Pull σ) : Pull (σ × Nat) := fun stream cancelled => (next stream.1 cancelled).map (·, stream.2)

namespace Pull

theorem answers_placed (next : Pull σ) (signals : List Bool) (stream : σ) (place : Nat) :
    next.placed.answers signals (stream, place) = next.answers signals stream := by
  induction signals generalizing stream with
  | nil => rfl
  | cons signal signals ih => exact congrArg (_ :: ·) (ih _)

theorem after_placed (next : Pull σ) (signals : List Bool) (stream : σ) (place : Nat) :
    next.placed.after signals (stream, place) = (next.after signals stream, place) := by
  induction signals generalizing stream with
  | nil => rfl
  | cons signal signals ih => exact ih _

theorem placed_mirrors (next : Pull σ) : next.placed.Mirrors next Eq fun placed stream => placed.1 = stream := by
  rintro ⟨stream, place⟩ _ cancelled rfl
  exact ⟨.refl _, rfl, rfl⟩

end Pull

namespace Rotation

theorem answers_placed (next : Pull σ) (streams : List σ) (signals : List Bool) :
    (Rotation.pull next.placed).answers signals ⟨streams.zipIdx, 0⟩ = (Rotation.pull next).answers signals ⟨streams, 0⟩ := by
  have mirrors : (Rotation.pull next.placed).Mirrors (Rotation.pull next) Eq
      (Rotation.Alike fun placed stream => placed.1 = stream) := by
    intro rotation twin cancelled alike
    unfold Rotation.pull
    rw [alike.streams.length_eq]
    exact next.placed_mirrors.union _ _ _ _ alike
  have each : List.Forall₂ (fun (placed : σ × Nat) stream => placed.1 = stream) streams.zipIdx streams := by
    rw [← List.forall₂_map_left_iff, List.zipIdx_map_fst, List.forall₂_eq_eq_eq]
  have alike : Rotation.Alike (fun (placed : σ × Nat) stream => placed.1 = stream) ⟨streams.zipIdx, 0⟩ ⟨streams, 0⟩ :=
    ⟨rfl, each⟩
  have answers := (mirrors.answers signals alike).imp fun _ _ matching => matching.eq
  rwa [List.forall₂_eq_eq_eq] at answers

theorem answer_placed (next : Pull σ) (streams : List σ) (signals : List Bool) (cancelled : Bool) :
    (Rotation.pull next.placed ((Rotation.pull next.placed).after signals ⟨streams.zipIdx, 0⟩) cancelled).answer =
      (Rotation.pull next ((Rotation.pull next).after signals ⟨streams, 0⟩) cancelled).answer := by
  have whole := answers_placed next streams (signals ++ [cancelled])
  rw [Pull.answers_append, Pull.answers_append, answers_placed] at whole
  exact (List.cons.inj (List.append_cancel_left whole)).1

end Rotation

theorem Merges.of_placed {asks : List Ask} (merges : Merges next.placed streams.zipIdx asks) : Merges next streams asks where
  inside := by simpa using merges.inside
  own place stream found := by
    have there : streams.zipIdx[place]? = some (stream, place) := by simp [found]
    exact (merges.own place _ there).trans (next.answers_placed _ stream place)
  again := merges.again
  gone := merges.gone
  fair := by simpa using merges.fair

theorem Standing.place_eq {asks : List Ask} {place : Nat} {stream : σ × Nat}
    (standing : Standing next.placed streams.zipIdx asks place stream) : stream.2 = place := by
  obtain ⟨⟨first, there⟩, found, rfl⟩ := standing
  rw [List.getElem?_zipIdx, Option.map_eq_some_iff] at found
  obtain ⟨_, _, same⟩ := found
  rw [Pull.after_placed, ← (Prod.mk.inj same).2, Nat.zero_add]

namespace Rotation

-- Streams leave a union and never change their order. One that fails stays, and it is blamed by the number of streams that
-- are before it.
structure Settles (rotation : Rotation (σ × Nat)) (pulled : Pulled (Rotation (σ × Nat))) : Prop where
  order : (pulled.stream.streams.map (·.2)).Sublist (rotation.streams.map (·.2))
  blamed : ∀ failure, pulled.answer = .error failure → failure.places = [] ∨
    ∃ (before : List (σ × Nat)) (stream : σ × Nat) (after : List (σ × Nat)) (inner : Failure),
      pulled.stream.streams = before ++ stream :: after ∧ pulled.stream.queue = stream :: (after ++ before) ∧
        failure = inner.within (.unionChild before.length)

theorem Settles.answered {rotation : Rotation (σ × Nat)} {pulled : Pulled (Rotation (σ × Nat))} {given : Option Record}
    (order : (pulled.stream.streams.map (·.2)).Sublist (rotation.streams.map (·.2))) (answer : pulled.answer = .ok given) :
    rotation.Settles pulled := by
  refine ⟨order, ?_⟩
  intro failure failed
  cases answer.symm.trans failed

-- By induction on the streams that are left, since a pull goes on only when one of them leaves.
theorem settles_pull (next : Pull σ) (rotation : Rotation (σ × Nat)) (cancelled : Bool) :
    rotation.Settles (Rotation.pull next.placed rotation cancelled) := by
  obtain ⟨streams, cursor⟩ := rotation
  induction left : streams.length generalizing streams cursor cancelled with
  | zero =>
    obtain rfl := List.length_eq_zero_iff.mp left
    exact .answered (List.Sublist.refl _) rfl
  | succ count ih =>
    rcases Pull.rotation_cases streams cursor with rfl | ⟨before, stream, after, rfl, turn⟩
    · cases left
    · cases cancelled with
      | true =>
        rw [Pull.rotation_stopped, if_neg (List.append_ne_nil_of_right_ne_nil _ (List.cons_ne_nil _ _))]
        refine ⟨List.Sublist.refl _, ?_⟩
        rintro _ ⟨⟩
        exact .inl rfl
      | false =>
        have kept : (before ++ (next.placed stream false).stream :: after).map (·.2) =
            (before ++ stream :: after).map (·.2) := by simp [Pull.placed, Pulled.map]
        rw [Pull.rotation_turn turn]
        cases answer : (next.placed stream false).answer with
        | error failure =>
          refine ⟨kept ▸ List.Sublist.refl _, ?_⟩
          rintro _ ⟨⟩
          exact .inr ⟨before, _, after, failure, rfl, queue_of_turn (by simpa using turn), rfl⟩
        | ok given =>
          cases given with
          | some record => exact .answered (kept ▸ List.Sublist.refl _) rfl
          | none =>
            have fewer : (before ++ after).length = count := by
              simp only [List.length_append, List.length_cons] at left ⊢
              omega
            obtain ⟨order, blamed⟩ := ih (next.placed stream false).cancelled (before ++ after) before.length fewer
            have leaves : (before ++ after).Sublist (before ++ stream :: after) :=
              (List.sublist_cons_self stream after).append_left before
            exact ⟨order.trans (leaves.map _), blamed⟩

theorem sorted_after (next : Pull σ) (signals : List Bool) {rotation : Rotation (σ × Nat)}
    (sorted : (rotation.streams.map (·.2)).Pairwise (· < ·)) :
    (((Rotation.pull next.placed).after signals rotation).streams.map (·.2)).Pairwise (· < ·) := by
  induction signals generalizing rotation with
  | nil => exact sorted
  | cons cancelled signals ih => exact ih (sorted.sublist (rotation.settles_pull next cancelled).order)

end Rotation

namespace Ask

variable {asks turn : List Ask} {place : Nat}

instance (asks : List Ask) : DecidablePred (Ended asks) := fun place => inferInstanceAs (Decidable (_ ∈ answers place asks))

def left (asks : List Ask) (count : Nat) : List Nat := (List.range count).filter fun place => ¬ Ended asks place

theorem mem_left {count : Nat} : place ∈ left asks count ↔ place < count ∧ ¬ Ended asks place := by
  simp [left]

theorem length_left_eq_iff : (left asks place).length = place ↔ ∀ earlier < place, ¬ Ended asks earlier := by
  have whole : (left asks place).length = (List.range place).length ↔
      ∀ earlier ∈ List.range place, decide (¬ Ended asks earlier) = true := List.length_filter_eq_length_iff
  rw [List.length_range] at whole
  rw [whole]
  simp

theorem length_left_of_sorted {before after : List Nat} {count : Nat}
    (sorted : (before ++ place :: after).Pairwise (· < ·))
    (running : ∀ other, other ∈ before ++ place :: after ↔ other < count ∧ ¬ Ended asks other) :
    before.length = (left asks place).length := by
  obtain ⟨sortedBefore, sortedAfter, apart⟩ := List.pairwise_append.mp sorted
  have later := (List.pairwise_cons.mp sortedAfter).1
  have same (other : Nat) : other ∈ before ↔ other ∈ left asks place := by
    rw [mem_left]
    have whole := running other
    have here := (running place).mp (List.mem_append_right _ List.mem_cons_self)
    constructor
    · intro member
      exact ⟨apart other member place List.mem_cons_self, (whole.mp (List.mem_append_left _ member)).2⟩
    · rintro ⟨less, notEnded⟩
      rcases List.mem_append.mp (whole.mpr ⟨less.trans here.1, notEnded⟩) with member | member
      · exact member
      · rcases List.mem_cons.mp member with rfl | member
        · omega
        · have more := later other member
          omega
  have distinct : (left asks place).Nodup := List.nodup_range.filter _
  exact ((List.perm_ext_iff_of_nodup sortedBefore.nodup distinct).mpr same).length_eq

end Ask

theorem Comes.failed_last {turn : List Ask} {answer : Answer} (comes : Comes turn answer) {place : Nat} {failure : Failure}
    (failed : ⟨place, .error failure⟩ ∈ turn) :
    turn.getLast? = some ⟨place, .error failure⟩ ∧ ∃ index, answer = .error (failure.within (.unionChild index)) := by
  induction comes with
  | finished => cases failed
  | stopped => cases failed
  | record other record => cases List.mem_singleton.mp failed
  | failed other index inner =>
    cases List.mem_singleton.mp failed
    exact ⟨rfl, index, rfl⟩
  | past other rest ih =>
    rcases List.mem_cons.mp failed with same | member
    · cases same
    · obtain ⟨last, index, reported⟩ := ih member
      refine ⟨?_, index, reported⟩
      rw [List.getLast?_cons, last]
      rfl

theorem Comes.failed_of {turn : List Ask} {answer : Answer} (comes : Comes turn answer) {failure : Failure} {index : Nat}
    (reported : answer = .error (failure.within (.unionChild index))) : ∃ place, ⟨place, .error failure⟩ ∈ turn := by
  induction comes with
  | failed place other inner =>
    obtain ⟨places, cause⟩ := inner
    obtain ⟨otherPlaces, otherCause⟩ := failure
    cases reported
    exact ⟨place, List.mem_singleton_self _⟩
  | past place rest ih =>
    obtain ⟨other, member⟩ := ih reported
    exact ⟨other, List.mem_cons_of_mem _ member⟩
  | _ => cases reported

theorem Round.places_eq {asks : List Ask} {waiting served : List Nat} {queue : List (σ × Nat)}
    (round : Round next.placed streams.zipIdx asks waiting served queue) : waiting ++ served = queue.map (·.2) := by
  have each := round.standing.imp fun place stream standing => standing.place_eq.symm
  rwa [← List.forall₂_map_right_iff, List.forall₂_eq_eq_eq] at each

theorem Round.reported {asks turn : List Ask} {waiting served : List Nat} {rotation : Rotation (σ × Nat)}
    {pulled : Pulled (Rotation (σ × Nat))}
    (round : Round next.placed streams.zipIdx (asks ++ turn) waiting served pulled.stream.queue)
    (settles : rotation.Settles pulled) (sorted : (rotation.streams.map (·.2)).Pairwise (· < ·))
    (comes : Comes turn pulled.answer) {place : Nat} {failure : Failure} (failed : ⟨place, .error failure⟩ ∈ turn) :
    pulled.answer = .error (failure.within (.unionChild (Ask.left (asks ++ turn) place).length)) := by
  obtain ⟨last, index, reported⟩ := comes.failed_last failed
  rcases settles.blamed _ reported with outside | ⟨before, stream, after, inner, stand, queue, same⟩
  · cases outside
  · have numbered : index = before.length := by
      have places := congrArg Failure.places same
      simpa [Failure.within] using (List.cons.inj places).1
    have places := round.places_eq
    have first : (waiting ++ served).head? = some place := round.retried ⟨place, .error failure⟩ (by simp [last]) failure rfl
    rw [places, queue] at first
    obtain rfl : stream.2 = place := Option.some.inj first
    have running (other : Nat) : other ∈ before.map (·.2) ++ stream.2 :: after.map (·.2) ↔
        other < streams.length ∧ ¬ Ask.Ended (asks ++ turn) other := by
      have whole := round.left other
      rw [places, queue, List.length_zipIdx] at whole
      rw [← whole]
      simp [or_comm, or_left_comm]
    have ordered := sorted.sublist settles.order
    rw [stand, List.map_append, List.map_cons] at ordered
    have count := Ask.length_left_of_sorted ordered running
    rw [List.length_map] at count
    rw [reported, numbered, count]

theorem Rotation.failures_numbered (next : Pull σ) (streams : List σ) (signals : List Bool) (cancelled : Bool) :
    let pulled := Rotation.pull next ((Rotation.pull next).after signals ⟨streams, 0⟩) cancelled
    ∃ asks turn, Merges next streams (asks ++ turn) ∧
      Serves streams.length [] signals ((Rotation.pull next).answers signals ⟨streams, 0⟩) asks ∧
      UnionPull streams.length asks cancelled turn pulled.answer ∧
      ∀ place failure, ⟨place, .error failure⟩ ∈ turn →
        pulled.answer = .error (failure.within (.unionChild (Ask.left (asks ++ turn) place).length)) := by
  obtain ⟨asks, _, _, serves, before⟩ := (round_of_streams next.placed streams.zipIdx).serves signals
  obtain ⟨turn, _, _, pulled, after⟩ := before.pull cancelled
  have sorted : (streams.zipIdx.map (·.2)).Pairwise (· < ·) := by
    rw [List.zipIdx_map_snd]
    exact List.pairwise_lt_range'
  have settles := Rotation.settles_pull next ((Rotation.pull next.placed).after signals ⟨streams.zipIdx, 0⟩) cancelled
  have reported (place : Nat) (failure : Failure) (failed : ⟨place, .error failure⟩ ∈ turn) :=
    after.reported settles (Rotation.sorted_after next signals sorted) pulled.comes failed
  rw [Rotation.answers_placed, List.length_zipIdx] at serves
  rw [Rotation.answer_placed, List.length_zipIdx] at pulled
  simp only [Rotation.answer_placed] at reported
  exact ⟨asks, turn, after.merges.of_placed, serves, pulled, reported⟩

namespace Plan

variable {settings : Settings}

theorem outline_unionAll (sources : List Plan) :
    (unionAll sources).outline =
      .node "union_all" [] (sources.mapIdx fun place source => ("source_" ++ toString place, source.outline)) := by
  have each : outlines sources = sources.map outline := by
    induction sources with
    | nil => rfl
    | cons source sources ih => rw [outlines, ih, List.map_cons]
  rw [outline, each, Outline.numbered]
  refine congrArg (Outline.node "union_all" []) (List.ext_getElem? fun place => ?_)
  rw [List.getElem?_mapIdx, List.getElem?_mapIdx, List.getElem?_map, Option.map_map]
  rfl

theorem materializeFrom_fails_at {before later : List Plan} {source : Plan} {index : Nat} {catalog middle : Catalog}
    {children : List Operator} {failure : Failure}
    (compiled : materializeFrom settings index before catalog = .ok (children, middle))
    (failed : source.materialize settings middle = .error failure) :
    materializeFrom settings index (before ++ source :: later) catalog =
      .error (failure.within (.unionSource (index + before.length))) := by
  induction before generalizing index catalog children with
  | nil =>
    cases compiled
    rw [List.nil_append, materializeFrom, failed]
    rfl
  | cons plan plans ih =>
    obtain ⟨child, between, first, others, rest, rfl⟩ := materializeFrom_cons.mp compiled
    rw [List.cons_append, materializeFrom, first, List.length_cons, ← Nat.add_assoc, Nat.add_right_comm]
    change (materializeFrom settings (index + 1) (plans ++ source :: later) between >>= _) = _
    rw [ih rest]
    rfl

-- When one of the streams of a union fails, at any pull of any run, its number is that of the streams before it that have
-- not ended, which is its place exactly as long as none before it has. An outline numbers the sources of a union by their
-- places at all times, and so does the failure of one that does not compile.
theorem union_failures_count_those_left (next : Pull σ) (streams : List σ) (signals : List Bool) (cancelled : Bool) :
    let pulled := Rotation.pull next ((Rotation.pull next).after signals ⟨streams, 0⟩) cancelled
    (∃ asks turn, Merges next streams (asks ++ turn) ∧
      Serves streams.length [] signals ((Rotation.pull next).answers signals ⟨streams, 0⟩) asks ∧
      UnionPull streams.length asks cancelled turn pulled.answer ∧
      ∀ place failure, ⟨place, .error failure⟩ ∈ turn → ∃ number,
        pulled.answer = .error (failure.within (.unionChild number)) ∧
          number = (Ask.left (asks ++ turn) place).length ∧
          (number = place ↔ ∀ earlier < place, ¬ Ask.Ended (asks ++ turn) earlier)) ∧
    (∀ sources : List Plan, (unionAll sources).outline =
      .node "union_all" [] (sources.mapIdx fun place source => ("source_" ++ toString place, source.outline))) ∧
    ∀ (settings : Settings) (catalog middle : Catalog) (before later : List Plan) (source : Plan)
      (children : List Operator) (failure : Failure),
      materializeFrom settings 0 before catalog = .ok (children, middle) →
        source.materialize settings middle = .error failure →
          (unionAll (before ++ source :: later)).materialize settings catalog =
            .error (failure.within (.unionSource before.length)) := by
  intro pulled
  refine ⟨?_, outline_unionAll, ?_⟩
  · obtain ⟨asks, turn, merges, serves, comes, reported⟩ := Rotation.failures_numbered next streams signals cancelled
    refine ⟨asks, turn, merges, serves, comes, ?_⟩
    intro place failure failed
    exact ⟨_, reported place failure failed, rfl, Ask.length_left_eq_iff⟩
  · intro settings catalog middle before later source children failure compiled failed
    have numbered : materializeFrom settings 0 (before ++ source :: later) catalog = _ :=
      materializeFrom_fails_at compiled failed
    rw [materialize, numbered, Nat.zero_add]
    rfl

theorem union_failures_count_those_left_second :
    let given (i : Int64) : Answer := .ok (some ⟨[("v", .int i)], .insert⟩)
    let failure := Failure.of (.scriptedPull 1)
    let streams : List (List Answer) := [[given 1, given 2], [given 10, .error failure], [given 20, given 30]]
    let pulled := Rotation.pull Grouped.ofAnswers
      ((Rotation.pull Grouped.ofAnswers).after [false, false, false, false] ⟨streams, 0⟩) false
    (∃ asks turn place, UnionPull 3 asks false turn pulled.answer ∧ ⟨place, .error failure⟩ ∈ turn ∧
      pulled.answer = .error (failure.within (.unionChild (Ask.left (asks ++ turn) place).length))) ∧
      pulled.answer = .error (failure.within (.unionChild 1)) ∧
      (unionAll [.scan { name := "there" }, .scan { name := "missing" }]).materialize {} ⟨[("there", .memory [])]⟩ =
        .error ((Failure.of (.unknownSource "missing")).within (.unionSource 1)) := by
  intro given failure streams pulled
  have answer : pulled.answer = .error (failure.within (.unionChild 1)) := by decide +kernel
  obtain ⟨⟨asks, turn, _, _, comes, reported⟩, _, compiling⟩ :=
    union_failures_count_those_left Grouped.ofAnswers streams [false, false, false, false] false
  obtain ⟨place, failed⟩ := (show Comes turn pulled.answer from comes.comes).failed_of answer
  obtain ⟨_, numbered, rfl, _⟩ := reported place failure failed
  refine ⟨⟨asks, turn, place, comes, failed, numbered⟩, answer, ?_⟩
  exact compiling {} ⟨[("there", .memory [])]⟩ ⟨[("there", .memory [])]⟩ [.scan { name := "there" }] []
    (.scan { name := "missing" }) [.scan "there" (.replay [])] (.of (.unknownSource "missing")) rfl rfl

-- The first source of a union is empty and the second one fails: the failure is said to be that of the first.
theorem union_blames_ended_source :
    let plan : Plan := .unionAll [.scan { name := "empty" }, .scan { name := "failing" }]
    let catalog : Catalog := ⟨[("empty", .memory []), ("failing", .script { pending := [], failAt := some 0 })]⟩
    ∃ op after, plan.materialize {} catalog = .ok (op, after) ∧
      (Operator.pull op false).answer = .error ⟨[.unionChild 0, .reading "failing"], .scriptedPull 0⟩ := by
  exact ⟨_, _, rfl, by decide +kernel⟩

end Plan

end DeltaQuery
