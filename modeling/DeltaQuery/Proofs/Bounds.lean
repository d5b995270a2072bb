import DeltaQuery.Operator
import DeltaQuery.Proofs.Pulls
import DeltaQuery.Proofs.Runs
import Mathlib.Algebra.Ring.Nat

namespace DeltaQuery

variable {σ : Type} {next other : Pull σ} {among : σ → Prop} {left : σ → Nat}

-- Two ways of pulling that cannot be told apart on some streams, which no pull leaves.
structure Pull.Agree (next other : Pull σ) (among : σ → Prop) : Prop where
  same : ∀ stream cancelled, among stream → next stream cancelled = other stream cancelled
  stays : ∀ stream cancelled, among stream → among (next stream cancelled).stream

namespace Pull.Agree

theorem filter (agree : next.Agree other among) (predicate : Formula) (fuel : Nat) :
    (Pull.filter next predicate fuel).Agree (Pull.filter other predicate fuel) among := by
  refine ⟨?_, ?_⟩
  · intro stream cancelled inside
    induction fuel generalizing stream cancelled with
    | zero =>
      unfold Pull.filter
      simp only [agree.same stream cancelled inside]
    | succ fuel ih =>
      rw [Pull.filter.eq_def next, Pull.filter.eq_def other]
      dsimp only
      rw [ih _ _ (agree.stays stream cancelled inside), agree.same stream cancelled inside]
  · intro stream cancelled inside
    fun_induction Pull.filter next predicate fuel stream cancelled with
    | case1 => exact inside
    | case5 stream cancelled running pulled record given verdict evaluated dropped fuel ih =>
      exact ih (agree.stays stream cancelled inside)
    | _ => exact agree.stays _ _ inside

theorem map (agree : next.Agree other among) (projection : Projection) :
    (Pull.map next projection).Agree (Pull.map other projection) among := by
  refine ⟨?_, ?_⟩
  · intro stream cancelled inside
    unfold Pull.map
    rw [agree.same stream cancelled inside]
  · intro stream cancelled inside
    have after := agree.stays stream cancelled inside
    unfold Pull.map
    split
    · exact inside
    · dsimp only
      split <;> exact after

theorem union (agree : next.Agree other among) (turns : Nat) :
    (Rotation.pullWithin next turns).Agree (Rotation.pullWithin other turns)
      fun rotation => ∀ stream ∈ rotation.streams, among stream := by
  refine ⟨?_, ?_⟩
  · intro rotation cancelled inside
    induction turns generalizing rotation cancelled with
    | zero => rfl
    | succ turns ih =>
      rw [Rotation.pullWithin, Rotation.pullWithin]
      dsimp only
      cases found : rotation.streams[rotation.cursor % rotation.streams.length]? with
      | none => rfl
      | some stream =>
        have rest : ∀ stream ∈ rotation.streams.eraseIdx (rotation.cursor % rotation.streams.length), among stream :=
          fun stream member => inside stream (List.mem_of_mem_eraseIdx member)
        dsimp only
        rw [ih ⟨_, _⟩ _ rest, agree.same stream cancelled (inside stream (List.mem_of_getElem? found))]
  · intro rotation cancelled inside
    have changed {streams : List σ} {index : Nat} {stream : σ} (inside : ∀ stream ∈ streams, among stream)
        (found : streams[index]? = some stream) (cancelled : Bool) :
        ∀ either ∈ streams.set index (next stream cancelled).stream, among either := by
      intro either member
      rcases List.mem_or_eq_of_mem_set member with old | rfl
      · exact inside either old
      · exact agree.stays stream cancelled (inside stream (List.mem_of_getElem? found))
    fun_induction Rotation.pullWithin next turns rotation cancelled with
    | case4 turns rotation cancelled index stream found => exact changed inside found cancelled
    | case5 turns rotation cancelled index stream found running pulled ended ih =>
      exact ih fun stream member => inside stream (List.mem_of_mem_eraseIdx member)
    | case6 turns rotation cancelled index stream found => exact changed inside found cancelled
    | _ => exact inside

theorem absorb (agree : next.Agree other among) (fuel : Nat) :
    (Grouped.absorb next fuel).Agree (Grouped.absorb other fuel) fun grouped => among grouped.source := by
  refine ⟨?_, ?_⟩
  · intro grouped cancelled inside
    induction fuel generalizing grouped cancelled with
    | zero =>
      rw [Grouped.absorb.eq_def next, Grouped.absorb.eq_def other]
      dsimp only
      rw [agree.same grouped.source cancelled inside]
      cases grouped.grouping.spec.emitMode <;> rfl
    | succ fuel ih =>
      have after := agree.stays grouped.source cancelled inside
      rw [agree.same grouped.source cancelled inside] at after
      have later (table : GroupTable) := ih (grouped.taken table (other grouped.source cancelled).stream)
        (other grouped.source cancelled).cancelled after
      simp only [Grouped.taken] at later
      rw [Grouped.absorb.eq_def next, Grouped.absorb.eq_def other]
      dsimp only
      rw [agree.same grouped.source cancelled inside]
      cases grouped.grouping.spec.emitMode with
      | changelog => rfl
      | final => simp only [later]
  · intro grouped cancelled inside
    obtain ⟨records, source, signal, table, gives, applied, ending⟩ := Grouped.absorb_cases next fuel grouped cancelled
    have reached : among source := gives.stays agree.stays inside
    rcases ending.source with same | same <;> rw [same]
    · exact reached
    · exact agree.stays source signal reached

theorem grouped (agree : next.Agree other among) (remaining : σ → Nat) :
    (Grouped.pull next remaining).Agree (Grouped.pull other remaining) fun grouped => among grouped.source := by
  refine ⟨?_, ?_⟩
  · intro grouped cancelled inside
    unfold Grouped.pull
    simp only [(agree.absorb _).same grouped cancelled inside]
  · intro grouped cancelled inside
    unfold Grouped.pull
    split
    · exact inside
    · exact inside
    · rw [(Grouped.drain_cases grouped cancelled).source]
      exact inside
    · split <;> exact (agree.absorb _).stays grouped cancelled inside

end Pull.Agree

namespace Operator

theorem depthOfAll_le_iff {children : List Operator} {bound : Nat} :
    depthOfAll children ≤ bound ↔ ∀ child ∈ children, child.depth ≤ bound := by
  induction children with
  | nil => simp [depthOfAll]
  | cons child children ih => simp [depthOfAll, ih]

theorem agree_around {inner outer : Pull σ} (agree : inner.Agree outer among) (wrap : σ → Operator) {bound : Nat}
    (kept : ∀ stream, among stream → (wrap stream).depth ≤ bound) {stream : σ} (cancelled : Bool)
    (inside : among stream) :
    (inner stream cancelled).map wrap = (outer stream cancelled).map wrap ∧
      ((inner stream cancelled).map wrap).stream.depth ≤ bound :=
  ⟨congrArg (Pulled.map wrap) (agree.same stream cancelled inside), kept _ (agree.stays stream cancelled inside)⟩

-- A tree that is pulled as one of its depth or of any greater one gets no deeper and comes to the same.
theorem pullAt_agree {bound depth more : Nat} (enough : bound ≤ depth) (further : depth ≤ more) :
    (pullAt depth).Agree (pullAt more) fun op => op.depth ≤ bound := by
  suffices both : ∀ (op : Operator) cancelled, op.depth ≤ bound →
      pullAt depth op cancelled = pullAt more op cancelled ∧ (pullAt depth op cancelled).stream.depth ≤ bound from
    ⟨fun op cancelled inside => (both op cancelled inside).1, fun op cancelled inside => (both op cancelled inside).2⟩
  intro op cancelled inside
  induction depth generalizing bound more op cancelled with
  | zero =>
    have flat : op.depth = 0 := by omega
    cases op with
    | feed f => exact ⟨by simp only [pullAt], by simp [pullAt, Pulled.map, depth]⟩
    | scan name f => exact ⟨by simp only [pullAt], by simp [pullAt, Pulled.map, depth]⟩
    | _ => simp [depth] at flat
  | succ limit ih =>
    obtain ⟨more, rfl⟩ : ∃ less, more = less + 1 := ⟨more - 1, by omega⟩
    have below {bound : Nat} (enough : bound ≤ limit) : (pullAt limit).Agree (pullAt more) fun op => op.depth ≤ bound :=
      ⟨fun op cancelled inside => (ih enough (Nat.le_of_succ_le_succ further) op cancelled inside).1,
        fun op cancelled inside => (ih enough (Nat.le_of_succ_le_succ further) op cancelled inside).2⟩
    -- Under a stage, the tree is one less deep.
    have less {depth : Nat} (deeper : depth + 1 ≤ bound) : depth ≤ bound - 1 ∧ bound - 1 ≤ limit := by omega
    cases op with
    | feed f => exact ⟨by simp only [pullAt], by simp [pullAt, Pulled.map, depth]⟩
    | scan name f => exact ⟨by simp only [pullAt], by simp [pullAt, Pulled.map, depth]⟩
    | filter predicate source =>
      rw [depth] at inside
      rw [pullAt, pullAt]
      refine agree_around ((below (less inside).2).filter predicate source.remaining) (.filter predicate) ?_ cancelled
        (less inside).1
      intro source shallow
      rw [depth]
      omega
    | map projection source =>
      rw [depth] at inside
      rw [pullAt, pullAt]
      refine agree_around ((below (less inside).2).map projection) (.map projection) ?_ cancelled (less inside).1
      intro source shallow
      rw [depth]
      omega
    | unionAll children cursor =>
      rw [depth] at inside
      rw [pullAt, pullAt]
      refine agree_around ((below (less inside).2).union children.length) (fun r => .unionAll r.streams r.cursor) ?_
        cancelled (depthOfAll_le_iff.mp (less inside).1)
      intro rotation shallow
      rw [depth]
      have all := depthOfAll_le_iff.mpr shallow
      omega
    | groupBy grouping source =>
      rw [depth] at inside
      rw [pullAt, pullAt]
      refine agree_around ((below (less inside).2).grouped remaining) (fun g => .groupBy g.grouping g.source) ?_
        cancelled (less inside).1
      intro grouped shallow
      rw [depth]
      omega

theorem pullAt_agree_pull (bound : Nat) : (pullAt bound).Agree pull fun op => op.depth ≤ bound := by
  refine ⟨?_, (pullAt_agree (Nat.le_refl bound) (Nat.le_refl bound)).stays⟩
  intro op cancelled inside
  exact ((pullAt_agree (Nat.le_refl op.depth) inside).same op cancelled (Nat.le_refl op.depth)).symm

theorem pull_scan (name : String) (f : Feed) (cancelled : Bool) :
    pull (.scan name f) cancelled = (Pull.scan Feed.pull name f cancelled).map (.scan name) := by
  rw [pull, pullAt]

-- Every other stage pulls the trees below it as any other tree is pulled.
theorem pull_filter (predicate : Formula) (source : Operator) (cancelled : Bool) :
    pull (.filter predicate source) cancelled =
      (Pull.filter pull predicate source.remaining source cancelled).map (.filter predicate) := by
  have agree := (pullAt_agree_pull source.depth).filter predicate source.remaining
  rw [pull, depth, pullAt, agree.same source cancelled (Nat.le_refl source.depth)]

theorem pull_map (projection : Projection) (source : Operator) (cancelled : Bool) :
    pull (.map projection source) cancelled = (Pull.map pull projection source cancelled).map (.map projection) := by
  have agree := (pullAt_agree_pull source.depth).map projection
  rw [pull, depth, pullAt, agree.same source cancelled (Nat.le_refl source.depth)]

theorem pull_unionAll (children : List Operator) (cursor : Nat) (cancelled : Bool) :
    pull (.unionAll children cursor) cancelled =
      (Rotation.pull pull ⟨children, cursor⟩ cancelled).map fun rotation =>
        .unionAll rotation.streams rotation.cursor := by
  have agree := (pullAt_agree_pull (depthOfAll children)).union children.length
  have shallow : ∀ child ∈ children, child.depth ≤ depthOfAll children := depthOfAll_le_iff.mp (Nat.le_refl _)
  rw [pull, depth, pullAt, Rotation.pull, Rotation.pull, agree.same ⟨children, cursor⟩ cancelled shallow]

theorem pull_groupBy (grouping : Grouping) (source : Operator) (cancelled : Bool) :
    pull (.groupBy grouping source) cancelled =
      (Grouped.pull pull remaining ⟨grouping, source⟩ cancelled).map fun grouped =>
        .groupBy grouped.grouping grouped.source := by
  have agree := (pullAt_agree_pull source.depth).grouped remaining
  rw [pull, depth, pullAt, agree.same ⟨grouping, source⟩ cancelled (Nat.le_refl source.depth)]

end Operator

theorem Answer.size_le_one (answer : Answer) : answer.size ≤ 1 := by
  unfold Answer.size
  split <;> omega

theorem Place.size_around (place : Place) (answer : Answer) : Answer.size (place.around answer) = answer.size := by
  cases answer <;> rfl

theorem JsonLines.pullFrom_bounds (counted : Nat) (lines : List (List UInt8)) :
    (pullFrom counted lines).2.pending.length + Answer.size (failing (pullFrom counted lines).1) ≤ lines.length := by
  induction lines generalizing counted with
  | nil => exact Nat.le_refl 0
  | cons line lines ih =>
    unfold pullFrom
    cases String.fromUTF8? ⟨line.toArray⟩ with
    | none => exact Nat.le_succ lines.length
    | some text =>
      dsimp only
      split
      · exact Nat.le_succ_of_le (ih (counted + 1))
      · exact Nat.add_le_add_left (Answer.size_le_one _) lines.length

theorem Feed.pull_bounds : Feed.pull.Bounds Feed.remaining := by
  intro feed cancelled
  cases feed with
  | replay pending => cases pending <;> simp [Feed.pull, Feed.remaining, Answer.size]
  | lines reader => exact JsonLines.pullFrom_bounds reader.counted reader.pending
  | script script =>
    obtain ⟨pending, pulls, cancelAt, failAt⟩ := script
    by_cases fails : failAt = some pulls
    · simp [Feed.pull, Script.pull, Pulled.map, Feed.remaining, Answer.size, fails]
    · cases pending <;> simp [Feed.pull, Script.pull, Pulled.map, Feed.remaining, Answer.size, fails]

theorem GroupTable.size_apply_le (table : GroupTable) (spec : GroupSpec) (record : Record) :
    (table.apply spec record).state.size ≤ table.size + 1 := by
  cases accepted : (table.apply spec record).result with
  | error failure =>
    rw [apply_failed accepted]
    exact Nat.le_succ _
  | ok group =>
    obtain ⟨key, values, _, _, routed⟩ := apply_ok accepted
    rw [routed]
    have cases_ := route_cases spec table key record.kind values
    generalize table.route spec key record.kind values = attempt at cases_
    cases cases_ with
    | changed => simp [replace, GroupTable.size]
    | entered => simp [enter, GroupTable.size]
    | _ => exact Nat.le_succ _

theorem GroupTable.size_applyAll_le {table last : GroupTable} {spec : GroupSpec} {records : List Record}
    (applied : table.applyAll spec records = .ok last) : last.size ≤ table.size + records.length := by
  induction records generalizing table with
  | nil =>
    cases applied
    exact Nat.le_refl _
  | cons record records ih =>
    have step := table.size_apply_le spec record
    rw [applyAll] at applied
    split at applied
    · cases applied
    · have rest := ih applied
      rw [List.length_cons]
      omega

namespace Pull.Bounds

theorem scan (bounds : next.Bounds left) (name : String) : (Pull.scan next name).Bounds left := by
  intro stream cancelled
  unfold Pull.scan
  split
  · exact Nat.le_refl _
  · dsimp only
    rw [Place.size_around]
    exact bounds stream cancelled

theorem filter (bounds : next.Bounds left) (predicate : Formula) (fuel : Nat) :
    (Pull.filter next predicate fuel).Bounds left := by
  intro stream cancelled
  fun_induction Pull.filter next predicate fuel stream cancelled with
  | case1 => exact Nat.le_refl _
  | case3 | case6 => exact bounds _ _
  | case5 stream cancelled running pulled record given verdict evaluated dropped fuel ih =>
    exact Nat.le_trans ih (Nat.le_of_add_right_le (bounds stream cancelled))
  | _ => exact Nat.le_of_add_right_le (bounds _ _)

theorem map (bounds : next.Bounds left) (projection : Projection) : (Pull.map next projection).Bounds left := by
  intro stream cancelled
  have step := bounds stream cancelled
  unfold Pull.map
  split
  · exact Nat.le_refl _
  · dsimp only
    split
    · rename_i record given
      rw [given] at step
      exact Nat.le_trans (Nat.add_le_add_left (Answer.size_le_one _) _) step
    · exact step

theorem sum_set {streams : List σ} {index : Nat} {stream : σ} (found : streams[index]? = some stream) (after : σ) :
    ((streams.set index after).map left).sum + left stream = (streams.map left).sum + left after ∧
      ((streams.eraseIdx index).map left).sum + left stream = (streams.map left).sum := by
  obtain ⟨inside, rfl⟩ := List.getElem?_eq_some_iff.mp found
  have whole := ((List.getElem_cons_eraseIdx_perm inside).map left).sum_nat
  have changed := ((List.set_perm_cons_eraseIdx inside after).map left).sum_nat
  simp only [List.map_cons, List.sum_cons] at whole changed
  omega

theorem union (bounds : next.Bounds left) (turns : Nat) :
    (Rotation.pullWithin next turns).Bounds fun rotation => (rotation.streams.map left).sum := by
  intro rotation cancelled
  fun_induction Rotation.pullWithin next turns rotation cancelled with
  | case4 turns rotation cancelled index stream found running pulled record given =>
    have step := bounds stream cancelled
    have sums := @sum_set _ left _ _ _ found (next stream cancelled).stream
    change (next stream cancelled).answer = _ at given
    rw [given] at step
    dsimp only [pulled]
    omega
  | case5 turns rotation cancelled index stream found running pulled ended ih =>
    have sums := @sum_set _ left _ _ _ found (next stream cancelled).stream
    refine Nat.le_trans ih ?_
    dsimp only
    omega
  | case6 turns rotation cancelled index stream found running pulled failure failed =>
    have step := bounds stream cancelled
    have sums := @sum_set _ left _ _ _ found (next stream cancelled).stream
    simp only [pulled, Answer.size]
    omega
  | _ => exact Nat.le_refl _

-- What a grouping can still give: for every record below it a row and a group, and the groups still to be gone through.
def rowsLeft (left : σ → Nat) (grouped : Grouped σ) : Nat :=
  2 * left grouped.source + (grouped.grouping.table.size - grouped.grouping.drained)

theorem drain (left : σ → Nat) (grouped : Grouped σ) (cancelled : Bool) :
    rowsLeft left (grouped.drain cancelled).stream + (grouped.drain cancelled).answer.size ≤ rowsLeft left grouped := by
  have drained := Grouped.drain_cases grouped cancelled
  generalize grouped.drain cancelled = pulled at drained
  cases drained with
  | finished => exact Nat.le_refl _
  | stopped calledOff => exact Nat.le_refl _
  | @row slot group row found built =>
    rcases grouped.grouping.table.liveFrom?_cases grouped.grouping.drained with
      ⟨none, _⟩ | ⟨other, first, some, after, inside, _⟩
    · cases found.symm.trans none
    · cases found.symm.trans some
      simp only [rowsLeft, Answer.size]
      omega

theorem ending (bounds : next.Bounds left) {grouped : Grouped σ} {cancelled : Bool} {pulled : Pulled (Grouped σ)}
    (ending : Grouped.Ending next grouped cancelled pulled) :
    rowsLeft left pulled.stream + pulled.answer.size ≤ rowsLeft left grouped := by
  have step := bounds grouped.source cancelled
  cases ending with
  | stopped calledOff => exact Nat.le_refl _
  | failed answer =>
    simp only [Grouped.fail, Grouped.inPhase, Grouped.taken, rowsLeft, Answer.size]
    omega
  | ended answer =>
    refine Nat.le_trans (drain left _ _) ?_
    simp only [Grouped.inPhase, Grouped.taken, rowsLeft]
    omega
  | rejected answer rejection =>
    simp only [Grouped.fail, Grouped.inPhase, Grouped.taken, rowsLeft, Answer.size]
    omega
  | @row record group answer accepted changelog =>
    have size := grouped.grouping.table.size_apply_le grouped.grouping.spec record
    obtain ⟨row, built⟩ := group.row_exists grouped.grouping.spec record.kind
    rw [answer] at step
    rw [built]
    simp only [Grouped.answering, Grouped.taken, rowsLeft, Answer.size] at step ⊢
    omega
  | @endless record group answer accepted final =>
    have size := grouped.grouping.table.size_apply_le grouped.grouping.spec record
    rw [answer] at step
    simp only [Grouped.fail, Grouped.inPhase, Grouped.taken, rowsLeft, Answer.size] at step ⊢
    omega

theorem gives (bounds : next.Bounds left) {stream last : σ} {cancelled signal : Bool} {records : List Record}
    (gives : Pull.Gives next stream cancelled records last signal) : left last + records.length ≤ left stream := by
  induction gives with
  | nothing => exact Nat.le_refl _
  | @record stream last cancelled signal record records answer rest ih =>
    have step := bounds stream cancelled
    rw [answer] at step
    simp only [Answer.size, List.length_cons] at step ⊢
    omega

theorem exists_gives (bounds : next.Bounds left) (stream : σ) (cancelled : Bool) :
    ∃ records last signal, Pull.Gives next stream cancelled records last signal ∧
      ∀ record, (next last signal).answer ≠ .ok (some record) := by
  induction count : left stream using Nat.strongRecOn generalizing stream cancelled with
  | ind count ih =>
    subst count
    have step := bounds stream cancelled
    by_cases more : ∃ record, (next stream cancelled).answer = .ok (some record)
    · obtain ⟨record, answer⟩ := more
      rw [answer] at step
      obtain ⟨records, last, signal, rest, ended⟩ := ih _ (Nat.lt_of_succ_le step) _ (next stream cancelled).cancelled rfl
      exact ⟨record :: records, last, signal, .record answer rest, ended⟩
    · exact ⟨[], stream, cancelled, .nothing, not_exists.mp more⟩

theorem absorb (bounds : next.Bounds left) (fuel : Nat) : (Grouped.absorb next fuel).Bounds (rowsLeft left) := by
  intro grouped cancelled
  obtain ⟨records, source, signal, table, given, applied, ends⟩ := Grouped.absorb_cases next fuel grouped cancelled
  have last := bounds.ending ends
  have before := bounds.gives given
  have size := GroupTable.size_applyAll_le applied
  simp only [rowsLeft, Grouped.taken] at last ⊢
  omega

theorem grouped (bounds : next.Bounds left) (remaining : σ → Nat) :
    (Grouped.pull next remaining).Bounds (rowsLeft left) := by
  intro grouped cancelled
  unfold Grouped.pull
  split
  · exact Nat.le_refl _
  · exact Nat.le_refl _
  · exact drain left grouped cancelled
  · split <;> exact bounds.absorb _ grouped cancelled

end Pull.Bounds

namespace Operator

theorem remainingOfAll_eq (children : List Operator) : remainingOfAll children = (children.map remaining).sum := by
  induction children with
  | nil => rfl
  | cons child children ih => rw [remainingOfAll, ih, List.map_cons, List.sum_cons]

theorem pullAt_bounds (depth : Nat) : (pullAt depth).Bounds remaining := by
  induction depth with
  | zero =>
    intro op cancelled
    cases op with
    | feed f => simpa only [pullAt, Pulled.map, remaining] using Feed.pull_bounds f cancelled
    | scan name f => simpa only [pullAt, Pulled.map, remaining] using Feed.pull_bounds.scan name f cancelled
    | _ => exact Nat.le_refl _
  | succ depth ih =>
    intro op cancelled
    cases op with
    | feed f => simpa only [pullAt, Pulled.map, remaining] using Feed.pull_bounds f cancelled
    | scan name f => simpa only [pullAt, Pulled.map, remaining] using Feed.pull_bounds.scan name f cancelled
    | filter predicate source =>
      simpa only [pullAt, Pulled.map, remaining] using ih.filter predicate source.remaining source cancelled
    | map projection source => simpa only [pullAt, Pulled.map, remaining] using ih.map projection source cancelled
    | unionAll children cursor =>
      simpa only [pullAt, Pulled.map, remaining, remainingOfAll_eq, Rotation.pull] using
        ih.union children.length ⟨children, cursor⟩ cancelled
    | groupBy grouping source =>
      simpa only [pullAt, Pulled.map, remaining, Pull.Bounds.rowsLeft] using
        ih.grouped remaining ⟨grouping, source⟩ cancelled

theorem pull_bounds : pull.Bounds remaining := fun op cancelled => pullAt_bounds op.depth op cancelled

end Operator

end DeltaQuery
