import DeltaQuery.Pipeline
import DeltaQuery.Proofs.Bounds
import DeltaQuery.Proofs.Column
import DeltaQuery.Proofs.FailureKinds
import DeltaQuery.Sink.JsonArray

namespace DeltaQuery

def FailureKind.pulling : List FailureKind := [.evaluation, .retraction, .cancelled]

theorem Formula.Callable.evaluate_kind {formula : Formula} (callable : formula.Callable) {record : Record} {cause : Cause}
    (failed : formula.evaluate record = .error cause) : cause.kind = .evaluation :=
  (Formula.evaluate_fails formula failed).resolve_right fun ⟨_, lacks⟩ => lacks callable

theorem Formula.evaluateEach_failsIn {formulas : List Formula} (callable : ∀ formula ∈ formulas, formula.Callable)
    (place : Nat → Place) (record : Record) (index : Nat) :
    FailsIn [.evaluation] (evaluateEach place record index formulas) := by
  intro failure failed
  obtain ⟨formula, member, cause, evaluated, kind⟩ := evaluateEach_fails failed
  simp [kind, (callable formula member).evaluate_kind evaluated]

theorem Projection.apply_fails {projection : Projection} (callable : ∀ formula ∈ projection.formulas, formula.Callable)
    (record : Record) : FailsIn FailureKind.pulling (projection.apply record) := by
  unfold apply
  exact ((Formula.evaluateEach_failsIn callable .mapColumn record 0).mono (by simp [FailureKind.pulling])).map _

namespace Accumulator

variable {value : Value} {accumulator : Accumulator} {cause : Cause}

theorem checkUndo_fails (refused : accumulator.checkUndo value = .error cause) :
    cause.kind ∈ [FailureKind.evaluation, .retraction] := by
  have ofSum {running : Sum} (refused : running.checkUndo value = .error cause) :
      cause.kind ∈ [FailureKind.evaluation, .retraction] := by
    unfold Sum.checkUndo at refused
    split at refused
    · cases refused
      simp [Cause.kind]
    · split at refused
      · cases refused
        simp [Cause.kind]
      · unfold Sum.checkRemaining at refused
        split at refused
        · split at refused <;> cases refused
          simp [Cause.kind]
        · cases refused
  induction accumulator with
  | avg running => exact ofSum refused
  | sum running => exact ofSum refused
  | count live =>
    unfold checkUndo at refused
    split at refused <;> cases refused
    simp [Cause.kind]
  | arrival order =>
    change order.checkUndo value = _ at refused
    unfold ArrivalOrder.checkUndo at refused
    split at refused <;> cases refused
    simp [Cause.kind]
  | ordered held =>
    change held.checkUndo value = _ at refused
    unfold OrderedExtremum.checkUndo at refused
    split at refused <;> cases refused
    simp [Cause.kind]
  | rescan held =>
    change held.checkUndo value = _ at refused
    unfold RescanExtremum.checkUndo at refused
    split at refused <;> cases refused
    simp [Cause.kind]
  | distinct live inner ih =>
    unfold checkUndo at refused
    split at refused
    · cases refused
      simp [Cause.kind]
    · exact ih refused
    · cases refused

theorem check_fails {kind : EventKind} (refused : accumulator.check kind value = .error cause) :
    cause.kind ∈ [FailureKind.evaluation, .retraction] := by
  unfold check at refused
  split at refused
  · cases refused
  · cases kind with
    | insert => simp [checkIncorporate_kind refused]
    | retract => exact checkUndo_fails refused

end Accumulator

theorem Group.checkFrom_fails (kind : EventKind) (index : Nat) (aggregates : List Aggregate)
    (accumulators : List Accumulator) (values : List Value) :
    FailsIn [.evaluation, .retraction] (checkFrom kind index aggregates accumulators values) := by
  induction aggregates generalizing index accumulators values with
  | nil => exact .ok ()
  | cons aggregate aggregates ih =>
    cases accumulators with
    | nil => exact .ok ()
    | cons accumulator accumulators =>
      cases values with
      | nil => exact .ok ()
      | cons value values =>
        rw [checkFrom_cons]
        split
        · rename_i cause refused
          exact .error (Accumulator.check_fails refused)
        · exact ih (index + 1) accumulators values

namespace GroupTable

theorem route_fails (spec : GroupSpec) (table : GroupTable) (key : List Value) (kind : EventKind) (values : List Value) :
    FailsIn [.evaluation, .retraction] (table.route spec key kind values).result := by
  have cases_ := route_cases spec table key kind values
  generalize table.route spec key kind values = attempt at cases_
  cases cases_ with
  | unseen absent retraction => exact .error (by simp [Failure.kind, Failure.of, Cause.kind])
  | @refused failure group home update =>
    refine .error ?_
    unfold Group.update at update
    split at update
    · cases update
      simp [Failure.kind, Failure.of, Cause.kind]
    · split at update
      · rename_i refusal refused
        cases update
        exact Group.checkFrom_fails _ _ _ _ _ _ refused
      · rename_i checked
        simp only [Group.changeFrom_ok checked] at update
        cases update
  | changed found update => exact .ok _
  | entered absent insertion update => exact .ok _

theorem apply_fails {spec : GroupSpec} (callable : ∀ formula ∈ spec.key, formula.Callable) (table : GroupTable)
    (record : Record) : FailsIn FailureKind.pulling (table.apply spec record).result := by
  unfold apply
  split
  · rename_i failure evaluated
    have kind := Formula.evaluateEach_failsIn callable .groupKey record 0 failure evaluated
    exact .error (by simp_all [FailureKind.pulling])
  · rename_i key keyed
    split
    · rename_i failure evaluated
      exact .error (by simp [FailureKind.pulling, GroupSpec.fieldsFrom_kind evaluated])
    · rename_i values fields
      exact (route_fails spec table key record.kind values).mono (by simp [FailureKind.pulling])

end GroupTable

section

variable {σ : Type} {next : Pull σ} {sound : σ → Prop} {left : σ → Nat}

-- What a pull of a sound stream comes to: it fails as pulls do, and after an answer the stream is still sound.
structure Pulled.Orderly (sound : σ → Prop) (pulled : Pulled σ) : Prop where
  kinds : FailsIn FailureKind.pulling pulled.answer
  stays : ∀ given, pulled.answer = .ok given → sound pulled.stream

def Pull.Orderly (next : Pull σ) (sound : σ → Prop) : Prop :=
  ∀ stream cancelled, sound stream → (next stream cancelled).Orderly sound

theorem Pulled.Orderly.map {τ : Type} {outer : τ → Prop} {pulled : Pulled σ} {wrap : σ → τ} (orderly : pulled.Orderly sound)
    (kept : ∀ stream, sound stream → outer (wrap stream)) : (pulled.map wrap).Orderly outer :=
  ⟨orderly.kinds, fun given answer => kept _ (orderly.stays given answer)⟩

theorem Pulled.Orderly.failed {failure : Failure} (kind : failure.kind ∈ FailureKind.pulling) (stream : σ)
    (cancelled : Bool) : Pulled.Orderly sound ⟨.error failure, stream, cancelled⟩ :=
  ⟨.error kind, nofun⟩

theorem Pulled.Orderly.stopped (stage : Stage) (stream : σ) (cancelled : Bool) :
    Pulled.Orderly sound ⟨DeltaQuery.stopped stage, stream, cancelled⟩ :=
  .failed (by simp [FailureKind.pulling, Failure.kind, Failure.of, Cause.kind]) stream cancelled

namespace JsonLines

theorem fieldValues_error {line : Nat} {fields : List (String × Json)} {cause : Cause}
    (failed : fieldValues line fields = .error cause) : ∃ name, cause = .objectField line name := by
  induction fields with
  | nil => cases failed
  | cons field fields ih =>
    rw [fieldValues] at failed
    split at failed
    · cases failed
      exact ⟨field.1, rfl⟩
    · cases rest : fieldValues line fields with
      | error other =>
        rw [rest] at failed
        cases failed
        exact ih rest
      | ok values =>
        rw [rest] at failed
        cases failed

theorem decodeLine_error {line : Nat} {text : List Char} {cause : Cause} (failed : decodeLine line text = .error cause) :
    cause = .malformedLine line ∨ ∃ name, cause = .objectField line name := by
  unfold decodeLine at failed
  split at failed
  · cases failed
    exact .inl rfl
  · rename_i retract fields _
    cases values : fieldValues line (ByName.sorted fields) with
    | error other =>
      rw [values] at failed
      cases failed
      exact .inr (fieldValues_error values)
    | ok columns =>
      rw [values] at failed
      cases failed

theorem pullFrom_fails {counted : Nat} {lines : List (List UInt8)} {cause : Cause}
    (failed : (pullFrom counted lines).1 = .error cause) : cause.kind = .evaluation := by
  induction lines generalizing counted with
  | nil => cases failed
  | cons line lines ih =>
    rw [pullFrom] at failed
    split at failed
    · cases failed
      rfl
    · rename_i text _
      dsimp only at failed
      split at failed
      · exact ih failed
      · cases decoded : decodeLine (counted + 1) (Text.trimmed text.toList) with
        | error other =>
          rw [decoded] at failed
          cases failed
          rcases decodeLine_error decoded with rfl | ⟨name, rfl⟩ <;> rfl
        | ok record =>
          rw [decoded] at failed
          cases failed

end JsonLines

theorem Feed.pull_orderly : Feed.pull.Orderly fun _ => True := by
  intro feed cancelled _
  refine ⟨?_, fun _ _ => trivial⟩
  cases feed with
  | replay pending => exact .ok _
  | lines reader =>
    refine .failing fun cause failed => ?_
    simp [FailureKind.pulling, JsonLines.pullFrom_fails failed]
  | script script =>
    unfold Feed.pull Script.pull
    dsimp only
    split
    · exact .error (by simp [FailureKind.pulling, Failure.kind, Failure.of, Cause.kind])
    · exact .ok _

namespace Pull.Orderly

theorem scan (orderly : next.Orderly sound) (name : String) : (Pull.scan next name).Orderly sound := by
  intro stream cancelled here
  unfold Pull.scan
  split
  · exact .stopped .scan stream cancelled
  · obtain ⟨kinds, stays⟩ := orderly stream cancelled here
    exact ⟨kinds.around _, fun given answer => stays given (Place.around_eq_ok.mp answer)⟩

theorem map (orderly : next.Orderly sound) {projection : Projection}
    (callable : ∀ formula ∈ projection.formulas, formula.Callable) : (Pull.map next projection).Orderly sound := by
  intro stream cancelled here
  obtain ⟨kinds, stays⟩ := orderly stream cancelled here
  unfold Pull.map
  split
  · exact .stopped .map stream cancelled
  · dsimp only
    split
    · rename_i record given
      exact ⟨(Projection.apply_fails callable record).map some, fun _ _ => stays _ given⟩
    · exact ⟨kinds, stays⟩

-- A filter is never out of pulls while the stream below gives records.
theorem filter (orderly : next.Orderly sound) (bounds : next.Bounds left) {predicate : Formula}
    (callable : predicate.Callable) {fuel : Nat} {stream : σ} (cancelled : Bool) (enough : left stream ≤ fuel)
    (here : sound stream) : (Pull.filter next predicate fuel stream cancelled).Orderly sound := by
  fun_induction Pull.filter next predicate fuel stream cancelled with
  | case1 => exact .stopped .filter _ _
  | case2 fuel stream cancelled running pulled record given failure failed =>
    obtain ⟨cause, evaluated, kind⟩ := failing_kind (Place.around_kind failed).choose_spec.1
    refine .failed ?_ pulled.stream pulled.cancelled
    rw [(Place.around_kind failed).choose_spec.2, kind, callable.evaluate_kind evaluated]
    simp [FailureKind.pulling]
  | case3 | case6 => exact orderly _ _ here
  | case4 stream cancelled running pulled record given verdict evaluated dropped =>
    have step := bounds stream cancelled
    change (next stream cancelled).answer = _ at given
    rw [given] at step
    simp only [Answer.size] at step
    omega
  | case5 stream cancelled running pulled record given verdict evaluated dropped fuel ih =>
    have step := bounds stream cancelled
    change (next stream cancelled).answer = _ at given
    rw [given] at step
    simp only [Answer.size] at step
    exact ih (by dsimp only [pulled]; omega) ((orderly stream cancelled here).stays _ given)

theorem union (orderly : next.Orderly sound) (turns : Nat) :
    (Rotation.pullWithin next turns).Orderly fun rotation => ∀ stream ∈ rotation.streams, sound stream := by
  intro rotation cancelled here
  fun_induction Rotation.pullWithin next turns rotation cancelled with
  | case1 | case2 => exact ⟨.ok none, fun _ _ => here⟩
  | case3 => exact .stopped .unionAll _ _
  | case4 turns rotation cancelled index stream found running pulled record given =>
    refine ⟨.ok _, fun _ _ other member => ?_⟩
    rcases List.mem_or_eq_of_mem_set member with old | rfl
    · exact here other old
    · exact (orderly stream cancelled (here stream (List.mem_of_getElem? found))).stays _ given
  | case5 turns rotation cancelled index stream found running pulled ended ih =>
    exact ih fun stream member => here stream (List.mem_of_mem_eraseIdx member)
  | case6 turns rotation cancelled index stream found running pulled failure failed =>
    have kinds := (orderly stream cancelled (here stream (List.mem_of_getElem? found))).kinds
    exact .failed (failure.kind_within (.unionChild index) ▸ kinds failure failed) _ _

end Pull.Orderly

-- A grouping over a sound stream that can be pulled again.
structure Grouped.Sound (sound : σ → Prop) (grouped : Grouped σ) : Prop where
  callable : ∀ formula ∈ grouped.grouping.spec.key, formula.Callable
  running : grouped.grouping.phase ≠ .failed
  source : sound grouped.source

namespace Pull.Orderly

section

variable {grouped : Grouped σ}

theorem finished (here : grouped.Sound sound) (cancelled : Bool) :
    Pulled.Orderly (Grouped.Sound sound) ⟨.ok none, grouped.inPhase .closed, cancelled⟩ :=
  ⟨.ok none, fun _ _ => ⟨here.callable, by simp [Grouped.inPhase], here.source⟩⟩

theorem answering (here : grouped.Sound sound) (group : Group) (kind : EventKind) (cancelled : Bool) :
    (grouped.answering (group.row grouped.grouping.spec kind) cancelled).Orderly (Grouped.Sound sound) := by
  obtain ⟨row, built⟩ := group.row_exists grouped.grouping.spec kind
  rw [built]
  exact ⟨.ok _, fun _ _ => here⟩

theorem drain (here : grouped.Sound sound) (cancelled : Bool) :
    (grouped.drain cancelled).Orderly (Grouped.Sound sound) := by
  have drained := Grouped.drain_cases grouped cancelled
  generalize grouped.drain cancelled = pulled at drained
  cases drained with
  | finished => exact finished here cancelled
  | stopped calledOff => exact .stopped .groupBy _ cancelled
  | row found built => exact ⟨.ok _, fun _ _ => ⟨here.callable, here.running, here.source⟩⟩

-- In a grouping that waits for the end, the stream below ends before the pulls do.
theorem absorb (orderly : next.Orderly sound) (bounds : next.Bounds left) {fuel : Nat} (cancelled : Bool)
    (enough : grouped.grouping.spec.emitMode = .final → left grouped.source ≤ fuel) (here : grouped.Sound sound) :
    (Grouped.absorb next fuel grouped cancelled).Orderly (Grouped.Sound sound) := by
  induction fuel using Nat.strongRecOn generalizing grouped cancelled with
  | ind fuel ih =>
    have step := bounds grouped.source cancelled
    obtain ⟨kinds, stays⟩ := orderly grouped.source cancelled here.source
    rw [Grouped.absorb.eq_def]
    dsimp only
    split
    · exact .stopped .groupBy _ cancelled
    · split
      · rename_i failure failed
        exact .failed (kinds failure failed) _ _
      · rename_i ended
        have draining : Grouped.Sound sound
            ((grouped.taken grouped.grouping.table (next grouped.source cancelled).stream).inPhase .draining) :=
          ⟨here.callable, by simp [Grouped.inPhase], stays _ ended⟩
        exact drain draining _
      · rename_i record given
        have applied := grouped.grouping.table.apply_fails here.callable record
        rw [given] at step
        simp only [Answer.size] at step
        split
        · rename_i failure failed
          exact .failed (applied failure failed) _ _
        · have taken : Grouped.Sound sound (grouped.taken (grouped.grouping.table.apply grouped.grouping.spec record).state
              (next grouped.source cancelled).stream) := ⟨here.callable, here.running, stays _ given⟩
          split
          · exact answering taken _ record.kind _
          · rename_i final
            have less := enough final
            omega
          · rename_i fuel final
            have less := enough final
            exact ih fuel (Nat.lt_succ_self fuel) _ (fun _ => by dsimp only [Grouped.taken]; omega) taken

end

theorem grouped (orderly : next.Orderly sound) (bounds : next.Bounds left) :
    (Grouped.pull next left).Orderly (Grouped.Sound sound) := by
  intro grouped cancelled here
  unfold Grouped.pull
  split
  · rename_i failed
    exact absurd failed here.running
  · exact ⟨.ok none, fun _ _ => here⟩
  · exact drain here cancelled
  · split
    · rename_i changelog
      exact orderly.absorb bounds cancelled (fun final => by simp [changelog] at final) here
    · exact orderly.absorb bounds cancelled (fun _ => Nat.le_refl _) here

end Pull.Orderly

end

-- A sink that fails only for its writer, and can be written to again after it has taken a record.
structure Sink.Orderly {τ : Type} (sink : Sink τ) (ready : τ → Prop) : Prop where
  write : ∀ output record, ready output → FailsIn [.io] (sink.write output record).1
  stays : ∀ output record, ready output → ready (sink.write output record).2
  close : ∀ output, ready output → FailsIn [.io] (sink.close output).1

theorem Collected.sink_orderly : Collected.sink.Orderly fun _ => True where
  write _ _ _ := .ok ()
  stays _ _ _ := trivial
  close _ _ := .ok ()

namespace JsonArray

theorem next_fails {progress : Progress} (fails : FailsIn [.io] progress.1) (action : SinkAction)
    (part : Writer → Except WriteFault Unit × Writer) : FailsIn [.io] (next progress action part).1 := by
  obtain ⟨failure | _, writer⟩ := progress
  · exact fails
  · refine .failing fun cause failed => ?_
    cases taken : (part writer).1 with
    | error fault =>
      rw [taken] at failed
      cases failed
      simp [Cause.kind]
    | ok =>
      rw [taken] at failed
      cases failed

theorem sink_orderly : sink.Orderly fun array => array.closed = false where
  write array record isOpen := by
    have start : FailsIn [.io] (delimit (.ok (), array.writer) (if array.written = 0 then .opening else .separating)).1 :=
      next_fails (.ok ()) _ _
    have fails := next_fails (next_fails start .encoding fun writer => writer.all record.jsonBytes) .terminating
      fun writer => writer.all ['\n'.toUInt8]
    change FailsIn _ (array.write record).1
    simp only [JsonArray.write, isOpen, Bool.false_eq_true, ↓reduceIte]
    split
    · rename_i failure failed
      exact .error (fails failure failed)
    · exact .ok ()
  stays array record isOpen := by
    change (array.write record).2.closed = false
    simp only [JsonArray.write, isOpen, Bool.false_eq_true, ↓reduceIte]
    split <;> rfl
  close array isOpen := by
    have start : FailsIn [.io] (if array.written = 0 then delimit (.ok (), array.writer) .opening
        else ((.ok (), array.writer) : Progress)).1 := by
      split
      · exact next_fails (.ok ()) _ _
      · exact .ok ()
    change FailsIn _ (array.close).1
    simp only [JsonArray.close, isOpen, Bool.false_eq_true, ↓reduceIte]
    exact next_fails (next_fails start _ _) .flushing Writer.flush

end JsonArray

-- A run fails as a pull does or for its sink, and has pulled to the end before it could be out of pulls.
theorem Pipeline.runFrom_fails {σ τ : Type} {next : Pull σ} {sound : σ → Prop} {left : σ → Nat} {sink : Sink τ}
    {ready : τ → Prop} (orderly : next.Orderly sound) (bounds : next.Bounds left) (sinking : sink.Orderly ready)
    {fuel : Nat} {stream : σ} {output : τ} (cancelled : Bool) (count : Nat) (enough : left stream ≤ fuel)
    (here : sound stream) (isReady : ready output) :
    FailsIn (FailureKind.pulling ++ [.io]) (runFrom next sink fuel stream cancelled output count).1 := by
  induction fuel using Nat.strongRecOn generalizing stream output cancelled count with
  | ind fuel ih =>
    have step := bounds stream cancelled
    obtain ⟨kinds, stays⟩ := orderly stream cancelled here
    rw [runFrom.eq_def]
    dsimp only
    split
    · rename_i failure failed
      exact .error (List.mem_append_left _ (kinds.around _ failure failed))
    · exact ((sinking.close output isReady).around _).mono (List.subset_append_right _ _) |>.map _
    · rename_i record given
      have given := Place.around_eq_ok.mp given
      have written := (sinking.write output record isReady).around .writeRecord
      rw [given] at step
      simp only [Answer.size] at step
      split
      · rename_i failure failed
        exact .error (List.mem_append_right _ (written failure failed))
      · omega
      · rename_i fuel _
        exact ih fuel (Nat.lt_succ_self fuel) _ _ (by omega) (stays _ given) (sinking.stays output record isReady)

end DeltaQuery
