import DeltaQuery.Pipeline
import DeltaQuery.Proofs.Bounds

namespace DeltaQuery

section

variable {ε α β : Type} {same : ε → ε → Prop}

-- The same value, or failures that are taken for the same.
inductive Matches (same : ε → ε → Prop) : Except ε α → Except ε α → Prop
  | ok (value : α) : Matches same (.ok value) (.ok value)
  | error {failure other : ε} (alike : same failure other) : Matches same (.error failure) (.error other)

theorem Matches.refl [Std.Refl same] : (result : Except ε α) → Matches same result result
  | .ok value => .ok value
  | .error failure => .error (Std.Refl.refl failure)

theorem Matches.map {result other : Except ε α} (matching : Matches same result other) (change : α → β) :
    Matches same (result.map change) (other.map change) := by
  cases matching with
  | ok value => exact .ok (change value)
  | error alike => exact .error alike

end

variable {same : Cause → Cause → Prop}

structure Failure.Alike (same : Cause → Cause → Prop) (failure other : Failure) : Prop where
  places : failure.places = other.places
  cause : same failure.cause other.cause

instance [Std.Refl same] : Std.Refl (Failure.Alike same) := ⟨fun failure => ⟨rfl, Std.Refl.refl failure.cause⟩⟩

theorem Failure.Alike.within {failure other : Failure} (alike : failure.Alike same other) (place : Place) :
    (failure.within place).Alike same (other.within place) :=
  ⟨congrArg (place :: ·) alike.places, alike.cause⟩

theorem Matches.failing {α : Type} {result other : Except Cause α} (matching : Matches same result other) :
    Matches (Failure.Alike same) (DeltaQuery.failing result) (DeltaQuery.failing other) := by
  cases matching with
  | ok value => exact .ok value
  | error alike => exact .error ⟨rfl, alike⟩

theorem Matches.around {α : Type} {result other : Except Failure α} (matching : Matches (Failure.Alike same) result other)
    (place : Place) : Matches (Failure.Alike same) (place.around result) (place.around other) := by
  cases matching with
  | ok value => exact .ok value
  | error alike => exact .error (alike.within place)

theorem Matches.eq {α : Type} {result other : Except Failure α} (matching : Matches (Failure.Alike Eq) result other) :
    result = other := by
  cases matching with
  | ok value => rfl
  | @error failure other alike =>
    obtain ⟨places, cause⟩ := failure
    obtain ⟨rfl, rfl⟩ := alike
    rfl

def Formula.Alike (same : Cause → Cause → Prop) (formula twin : Formula) : Prop :=
  ∀ record, Matches same (formula.evaluate record) (twin.evaluate record)

theorem Formula.Alike.evaluateEach {formulas twins : List Formula}
    (alike : List.Forall₂ (Formula.Alike same) formulas twins) (place : Nat → Place) (record : Record) (index : Nat) :
    Matches (Failure.Alike same) (evaluateEach place record index formulas) (evaluateEach place record index twins) := by
  induction alike generalizing index with
  | nil => exact .ok []
  | @cons formula twin formulas twins first rest ih =>
    rw [Formula.evaluateEach, Formula.evaluateEach]
    have matching := (first record).failing.around (place index)
    generalize (place index).around (failing (formula.evaluate record)) = result at matching
    generalize (place index).around (failing (twin.evaluate record)) = other at matching
    cases matching with
    | ok value => exact (ih (index + 1)).map (value :: ·)
    | error alike => exact .error alike

structure Projection.Alike (same : Cause → Cause → Prop) (projection twin : Projection) : Prop where
  names : projection.names = twin.names
  formulas : List.Forall₂ (Formula.Alike same) projection.formulas twin.formulas

theorem Projection.Alike.apply {projection twin : Projection} (alike : projection.Alike same twin) (record : Record) :
    Matches (Failure.Alike same) (projection.apply record) (twin.apply record) := by
  unfold Projection.apply
  rw [alike.names]
  exact (Formula.Alike.evaluateEach alike.formulas .mapColumn record 0).map _

structure GroupSpec.Alike (same : Cause → Cause → Prop) (spec twin : GroupSpec) : Prop where
  keyNames : spec.keyNames = twin.keyNames
  key : List.Forall₂ (Formula.Alike same) spec.key twin.key
  columns : spec.columns = twin.columns
  emitMode : spec.emitMode = twin.emitMode
  strategy : spec.strategy = twin.strategy

namespace GroupSpec.Alike

variable {spec twin : GroupSpec}

theorem row (alike : spec.Alike same twin) (group : Group) (kind : EventKind) :
    group.row spec kind = group.row twin kind := by
  unfold Group.row rowNames
  rw [alike.keyNames, alike.columns]

theorem update (alike : spec.Alike same twin) (group : Group) (kind : EventKind) (values : List Value) :
    group.update spec kind values = group.update twin kind values := by
  unfold Group.update aggregates
  rw [alike.columns]

theorem fresh (alike : spec.Alike same twin) (key : List Value) : Group.fresh spec key = Group.fresh twin key := by
  unfold Group.fresh aggregates
  rw [alike.columns, alike.strategy]

theorem route (alike : spec.Alike same twin) (table : GroupTable) (key : List Value) (kind : EventKind)
    (values : List Value) : table.route spec key kind values = table.route twin key kind values := by
  unfold GroupTable.route
  simp only [alike.fresh, alike.update]

theorem apply [Std.Refl same] (alike : spec.Alike same twin) (table : GroupTable) (record : Record) :
    Matches (Failure.Alike same) (table.apply spec record).result (table.apply twin record).result ∧
      (table.apply spec record).state = (table.apply twin record).state := by
  unfold GroupTable.apply evaluateFields
  have matching := Formula.Alike.evaluateEach alike.key .groupKey record 0
  change Matches _ (spec.evaluateKey record) (twin.evaluateKey record) at matching
  generalize spec.evaluateKey record = result at matching
  generalize twin.evaluateKey record = other at matching
  cases matching with
  | ok key =>
    simp only [alike.columns, alike.route]
    exact ⟨.refl _, trivial⟩
  | error alike => exact ⟨.error alike, rfl⟩

end GroupSpec.Alike

structure Grouping.Alike (same : Cause → Cause → Prop) (grouping twin : Grouping) : Prop where
  spec : grouping.spec.Alike same twin.spec
  table : grouping.table = twin.table
  phase : grouping.phase = twin.phase
  drained : grouping.drained = twin.drained

variable {σ τ : Type} {next : Pull σ} {other : Pull τ} {related : σ → τ → Prop}

structure Pulled.Mirrored (same : Cause → Cause → Prop) (related : σ → τ → Prop) (pulled : Pulled σ) (image : Pulled τ) :
    Prop where
  answer : Matches (Failure.Alike same) pulled.answer image.answer
  signal : pulled.cancelled = image.cancelled
  stream : related pulled.stream image.stream

-- Every pull of the one gives the answer of the other, up to how a failure came about, and they mirror each other
-- again after it.
def Pull.Mirrors (next : Pull σ) (other : Pull τ) (same : Cause → Cause → Prop) (related : σ → τ → Prop) : Prop :=
  ∀ stream image cancelled, related stream image →
    Pulled.Mirrored same related (next stream cancelled) (other image cancelled)

theorem Pulled.Mirrored.map {σ' τ' : Type} {outer : σ' → τ' → Prop} {wrap : σ → σ'} {reflect : τ → τ'}
    {pulled : Pulled σ} {image : Pulled τ} (mirrored : pulled.Mirrored same related image)
    (kept : ∀ stream image, related stream image → outer (wrap stream) (reflect image)) :
    (pulled.map wrap).Mirrored same outer (image.map reflect) :=
  ⟨mirrored.answer, mirrored.signal, kept _ _ mirrored.stream⟩

structure Grouped.Alike (same : Cause → Cause → Prop) (related : σ → τ → Prop) (grouped : Grouped σ) (twin : Grouped τ) :
    Prop where
  grouping : grouped.grouping.Alike same twin.grouping
  source : related grouped.source twin.source

structure Rotation.Alike (related : σ → τ → Prop) (rotation : Rotation σ) (twin : Rotation τ) : Prop where
  cursor : rotation.cursor = twin.cursor
  streams : List.Forall₂ related rotation.streams twin.streams

namespace Pull.Mirrors

theorem pulled (mirrors : next.Mirrors other same related) {stream : σ} {image : τ} (here : related stream image)
    (cancelled : Bool) : ∃ answer reply signal after reflected, Matches (Failure.Alike same) answer reply ∧
      related after reflected ∧ next stream cancelled = ⟨answer, after, signal⟩ ∧
      other image cancelled = ⟨reply, reflected, signal⟩ := by
  have below := mirrors stream image cancelled here
  exact ⟨_, _, _, _, _, below.answer, below.stream, rfl, by rw [below.signal]⟩

variable [Std.Refl same]

theorem map (mirrors : next.Mirrors other same related) {projection twin : Projection}
    (alike : projection.Alike same twin) : (Pull.map next projection).Mirrors (Pull.map other twin) same related := by
  intro stream image cancelled here
  obtain ⟨answer, reply, signal, after, reflected, matching, still, given, mirrored⟩ := mirrors.pulled here cancelled
  unfold Pull.map
  rw [given, mirrored]
  cases cancelled with
  | true => exact ⟨.refl _, rfl, here⟩
  | false =>
    rcases matching with ⟨_ | record⟩ | failed
    · exact ⟨.ok none, rfl, still⟩
    · exact ⟨(alike.apply record).map some, rfl, still⟩
    · exact ⟨.error failed, rfl, still⟩

theorem filter (mirrors : next.Mirrors other same related) {predicate twin : Formula} (alike : predicate.Alike same twin)
    (fuel : Nat) : (Pull.filter next predicate fuel).Mirrors (Pull.filter other twin fuel) same related := by
  intro stream image cancelled here
  induction fuel using Nat.strongRecOn generalizing stream image cancelled with
  | ind fuel ih =>
    obtain ⟨answer, reply, signal, after, reflected, matching, still, given, mirrored⟩ := mirrors.pulled here cancelled
    rw [Pull.filter.eq_def next, Pull.filter.eq_def other]
    dsimp only
    rw [given, mirrored]
    cases cancelled with
    | true => exact ⟨.refl _, rfl, here⟩
    | false =>
      rcases matching with ⟨_ | record⟩ | failed
      · exact ⟨.ok none, rfl, still⟩
      · simp only [Bool.false_eq_true, ↓reduceIte]
        have verdicts := (alike record).failing.around .filterPredicate
        generalize Place.filterPredicate.around (failing (predicate.evaluate record)) = verdict at verdicts
        generalize Place.filterPredicate.around (failing (twin.evaluate record)) = reflectedVerdict at verdicts
        cases verdicts with
        | error failed => exact ⟨.error failed, rfl, still⟩
        | ok verdict =>
          dsimp only
          split
          · exact ⟨.ok _, rfl, still⟩
          · cases fuel with
            | zero => exact ⟨.refl _, rfl, still⟩
            | succ less => exact ih less (Nat.lt_succ_self less) after reflected signal still
      · exact ⟨.error failed, rfl, still⟩

omit [Std.Refl same] in
-- What stands at the same place in related lists, and the lists once it has changed or left.
theorem facing {streams : List σ} {images : List τ} {index : Nat} {stream : σ}
    (each : List.Forall₂ related streams images) (found : streams[index]? = some stream) :
    ∃ image, images[index]? = some image ∧ related stream image ∧
      (∀ {after reflected}, related after reflected →
        List.Forall₂ related (streams.set index after) (images.set index reflected)) ∧
      List.Forall₂ related (streams.eraseIdx index) (images.eraseIdx index) := by
  induction each generalizing index with
  | nil => cases found
  | @cons first image streams images here rest ih =>
    cases index with
    | zero =>
      cases found
      exact ⟨image, rfl, here, fun still => .cons still rest, rest⟩
    | succ index =>
      obtain ⟨other, facing, still, changed, left⟩ := ih found
      exact ⟨other, facing, still, fun after => .cons here (changed after), .cons here left⟩

theorem union (mirrors : next.Mirrors other same related) (turns : Nat) :
    (Rotation.pullWithin next turns).Mirrors (Rotation.pullWithin other turns) same (Rotation.Alike related) := by
  rintro ⟨streams, cursor⟩ ⟨images, _⟩ cancelled ⟨rfl, each⟩
  induction turns generalizing streams images cursor cancelled with
  | zero => exact ⟨.ok none, rfl, rfl, each⟩
  | succ turns ih =>
    have length := each.length_eq
    rw [Rotation.pullWithin, Rotation.pullWithin]
    dsimp only at each length ⊢
    rw [← length]
    cases found : streams[cursor % streams.length]? with
    | none =>
      have missing : images[cursor % streams.length]? = none := by
        rwa [List.getElem?_eq_none_iff, ← length, ← List.getElem?_eq_none_iff]
      rw [missing]
      exact ⟨.ok none, rfl, rfl, each⟩
    | some stream =>
      obtain ⟨image, facing, here, changed, left⟩ := facing each found
      obtain ⟨answer, reply, signal, after, reflected, matching, still, given, mirrored⟩ := mirrors.pulled here cancelled
      rw [facing]
      dsimp only
      rw [given, mirrored]
      cases cancelled with
      | true => exact ⟨.refl _, rfl, rfl, each⟩
      | false =>
        rcases matching with ⟨_ | record⟩ | failed
        · exact ih _ _ _ _ left
        · exact ⟨.ok (some record), rfl, rfl, changed still⟩
        · exact ⟨.error (failed.within _), rfl, rfl, changed still⟩

section

variable {grouped : Grouped σ} {twin : Grouped τ}

omit [Std.Refl same] in
theorem inPhase (alike : grouped.Alike same related twin) (phase : Phase) :
    (grouped.inPhase phase).Alike same related (twin.inPhase phase) :=
  ⟨⟨alike.grouping.spec, alike.grouping.table, rfl, alike.grouping.drained⟩, alike.source⟩

omit [Std.Refl same] in
theorem fail (alike : grouped.Alike same related twin) {failure reply : Failure} (failed : failure.Alike same reply)
    (cancelled : Bool) :
    (grouped.fail failure cancelled).Mirrored same (Grouped.Alike same related) (twin.fail reply cancelled) :=
  ⟨.error failed, rfl, inPhase alike .failed⟩

theorem answering (alike : grouped.Alike same related twin) (row : Except Failure Record) (cancelled : Bool) :
    (grouped.answering row cancelled).Mirrored same (Grouped.Alike same related) (twin.answering row cancelled) := by
  cases row with
  | error failure => exact fail alike (Std.Refl.refl failure) cancelled
  | ok record => exact ⟨.ok (some record), rfl, alike⟩

theorem drain (alike : grouped.Alike same related twin) (cancelled : Bool) :
    (grouped.drain cancelled).Mirrored same (Grouped.Alike same related) (twin.drain cancelled) := by
  have ⟨⟨spec, table, phase, drained⟩, source⟩ := alike
  unfold Grouped.drain
  dsimp only
  rw [spec.emitMode, table, drained]
  split
  · exact ⟨.ok none, rfl, inPhase alike .closed⟩
  · split
    · exact fail alike (Std.Refl.refl _) cancelled
    · split
      · exact ⟨.ok none, rfl, inPhase alike .closed⟩
      · rename_i slot group found
        have advanced : Grouped.Alike same related
            ⟨{ grouped.grouping with table := twin.grouping.table, drained := slot + 1 }, grouped.source⟩
            ⟨{ twin.grouping with drained := slot + 1 }, twin.source⟩ := ⟨⟨spec, rfl, phase, rfl⟩, source⟩
        rw [spec.row]
        exact answering advanced _ cancelled

end

theorem absorb (mirrors : next.Mirrors other same related) (fuel : Nat) :
    (Grouped.absorb next fuel).Mirrors (Grouped.absorb other fuel) same (Grouped.Alike same related) := by
  intro grouped twin cancelled alike
  induction fuel using Nat.strongRecOn generalizing grouped twin cancelled with
  | ind fuel ih =>
    have ⟨⟨spec, table, phase, drained⟩, source⟩ := alike
    obtain ⟨answer, reply, signal, after, reflected, matching, still, given, mirrored⟩ := mirrors.pulled source cancelled
    have pulled : Grouped.Alike same related { grouped with source := after } { twin with source := reflected } :=
      ⟨⟨spec, table, phase, drained⟩, still⟩
    rw [Grouped.absorb.eq_def next, Grouped.absorb.eq_def other]
    dsimp only
    rw [given, mirrored]
    cases cancelled with
    | true => exact fail alike (Std.Refl.refl _) true
    | false =>
      rcases matching with ⟨_ | record⟩ | failed
      · exact drain (inPhase pulled .draining) signal
      · obtain ⟨results, states⟩ := spec.apply twin.grouping.table record
        simp only [Bool.false_eq_true, ↓reduceIte, table, spec.emitMode]
        have taken : Grouped.Alike same related
            (grouped.taken (twin.grouping.table.apply grouped.grouping.spec record).state after)
            (twin.taken (twin.grouping.table.apply twin.grouping.spec record).state reflected) :=
          ⟨⟨spec, states, phase, drained⟩, still⟩
        generalize (twin.grouping.table.apply grouped.grouping.spec record).result = result at results
        generalize (twin.grouping.table.apply twin.grouping.spec record).result = reflectedResult at results
        cases results with
        | error failed => exact fail taken failed signal
        | ok group =>
          dsimp only
          rw [spec.row]
          cases twin.grouping.spec.emitMode with
          | changelog => exact answering taken _ signal
          | final =>
            cases fuel with
            | zero => exact fail taken (Std.Refl.refl _) signal
            | succ less => exact ih less (Nat.lt_succ_self less) _ _ signal taken
      · exact fail pulled failed signal

theorem grouped (mirrors : next.Mirrors other same related) {left : σ → Nat} {right : τ → Nat}
    (bound : ∀ stream image, related stream image → left stream = right image) :
    (Grouped.pull next left).Mirrors (Grouped.pull other right) same (Grouped.Alike same related) := by
  intro grouped twin cancelled alike
  have ⟨⟨spec, table, phase, drained⟩, source⟩ := alike
  unfold Grouped.pull
  rw [phase, spec.emitMode, bound _ _ source]
  split
  · exact ⟨.refl _, rfl, alike⟩
  · exact ⟨.ok none, rfl, alike⟩
  · exact drain alike cancelled
  · split <;> exact mirrors.absorb _ grouped twin cancelled alike

omit [Std.Refl same] in
theorem answers (mirrors : next.Mirrors other same related) (signals : List Bool) {stream : σ} {image : τ}
    (here : related stream image) :
    List.Forall₂ (Matches (Failure.Alike same)) (next.answers signals stream) (other.answers signals image) := by
  induction signals generalizing stream image with
  | nil => exact .nil
  | cons cancelled signals ih =>
    have step := mirrors stream image cancelled here
    exact .cons step.answer (ih step.stream)

theorem runFrom (mirrors : next.Mirrors other same related) {ρ : Type} (sink : Sink ρ) (fuel : Nat) (cancelled : Bool)
    (output : ρ) (count : Nat) {stream : σ} {image : τ} (here : related stream image) :
    Matches (Failure.Alike same) (Pipeline.runFrom next sink fuel stream cancelled output count).1
        (Pipeline.runFrom other sink fuel image cancelled output count).1 ∧
      (Pipeline.runFrom next sink fuel stream cancelled output count).2 =
        (Pipeline.runFrom other sink fuel image cancelled output count).2 := by
  induction fuel using Nat.strongRecOn generalizing stream image cancelled output count with
  | ind fuel ih =>
    obtain ⟨answer, reply, signal, after, reflected, matching, still, given, mirrored⟩ := mirrors.pulled here cancelled
    rw [Pipeline.runFrom.eq_def next, Pipeline.runFrom.eq_def other]
    dsimp only
    rw [given, mirrored]
    rcases matching with ⟨_ | record⟩ | failed
    · exact ⟨.refl _, rfl⟩
    · rcases written : sink.write output record with ⟨failure | _, after⟩
      · simp only [written, Place.around_ok, Place.around_error]
        exact ⟨.refl _, trivial⟩
      · cases fuel with
        | zero =>
          simp only [written, Place.around_ok]
          exact ⟨.refl _, trivial⟩
        | succ less =>
          simp only [written, Place.around_ok]
          exact ih less (Nat.lt_succ_self less) signal after (count + 1) still
    · exact ⟨.error (failed.within _), rfl⟩

end Pull.Mirrors

theorem Formula.alike_refl (formula : Formula) : formula.Alike Eq formula := fun _ => .refl _

theorem Formula.forall₂_alike_refl (formulas : List Formula) : List.Forall₂ (Formula.Alike Eq) formulas formulas :=
  List.forall₂_same.mpr fun formula _ => formula.alike_refl

theorem Pulled.Mirrored.map_eq {ρ : Type} {pulled : Pulled σ} {image : Pulled τ}
    (mirrored : pulled.Mirrored Eq related image) {wrap : σ → ρ} {reflect : τ → ρ}
    (same : ∀ stream image, related stream image → wrap stream = reflect image) : pulled.map wrap = image.map reflect := by
  simp only [Pulled.map, mirrored.answer.eq, mirrored.signal, same _ _ mirrored.stream]

theorem Grouping.Alike.eq_of_spec {same : Cause → Cause → Prop} {grouping twin : Grouping}
    (alike : grouping.Alike same twin) (spec : grouping.spec = twin.spec) : grouping = twin := by
  obtain ⟨_, table, phase, drained⟩ := alike
  cases grouping
  cases twin
  simp_all

theorem Pull.Mirrors.grouped_same (mirrors : next.Mirrors other Eq related) {left : σ → Nat} {right : τ → Nat}
    (bound : ∀ stream image, related stream image → left stream = right image) (grouping : Grouping) {stream : σ} {image : τ}
    (cancelled : Bool) (here : related stream image) :
    (Grouped.pull next left ⟨grouping, stream⟩ cancelled).Mirrored Eq
      (fun grouped twin => grouped.grouping = twin.grouping ∧ related grouped.source twin.source)
      (Grouped.pull other right ⟨grouping, image⟩ cancelled) := by
  have alike : Grouped.Alike Eq related ⟨grouping, stream⟩ ⟨grouping, image⟩ :=
    ⟨⟨⟨rfl, Formula.forall₂_alike_refl _, rfl, rfl, rfl⟩, rfl, rfl, rfl⟩, here⟩
  obtain ⟨answer, signal, after⟩ := mirrors.grouped bound _ _ cancelled alike
  have spec := (Grouped.pull_accepts next left ⟨grouping, stream⟩ cancelled).1
  have twinSpec := (Grouped.pull_accepts other right ⟨grouping, image⟩ cancelled).1
  exact ⟨answer, signal, after.grouping.eq_of_spec (spec.trans twinSpec.symm), after.source⟩

end DeltaQuery
