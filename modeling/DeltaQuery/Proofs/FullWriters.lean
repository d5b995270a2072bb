import DeltaQuery.Proofs.ArrayRuns

namespace DeltaQuery

namespace Writer

def Took (start : Writer) (bytes : List UInt8) (writer : Writer) : Prop :=
  writer = start.take (bytes.take (start.accepted bytes))

theorem took_nothing (writer : Writer) : writer.Took [] writer := by
  rw [Took, List.take_nil, take_nil]

-- Once something has not fit, nothing fits any more, so what the writer is given next may differ from what it would have
-- been given.
theorem Took.adding {ε : Type} {start writer : Writer} {bytes more meant : List UInt8} {result : Except ε Unit × Writer}
    (took : start.Took bytes writer) (adding : Adding writer more result) (some : more ≠ [])
    (same : start.Fits bytes → more = meant) : Adding start (bytes ++ meant) result := by
  by_cases fits : start.Fits bytes
  · obtain rfl := same fits
    obtain rfl : writer = start.take bytes := by rw [took, fits, List.take_length]
    refine ⟨?_, ?_⟩
    · rw [adding.ok_iff, fits_append_iff, and_iff_right fits]
    · rw [adding.after, take_take, accepted_append, fits, List.take_length_add_append]
  · obtain rfl : writer = start.take (bytes.take (start.accepted bytes)) := took
    have short : ¬start.Fits (bytes ++ meant) := fun all => fits (fits_append_iff.mp all).1
    have front : (bytes ++ meant).take (start.accepted (bytes ++ meant)) = bytes.take (start.accepted bytes) := by
      rw [accepted_append, accepted_take_of_not_fits fits, Nat.add_zero,
        List.take_append_of_le_length (start.accepted_le bytes)]
    have full : (start.take (bytes.take (start.accepted bytes))).accepted more = 0 := by
      cases room : start.room with
      | none => exact absurd (by simp [Fits, accepted, room]) fits
      | some count =>
        simp only [Fits, accepted, room] at fits
        simp only [accepted, take, room, Option.map_some, List.length_take]
        omega
    refine ⟨iff_of_false ?_ short, ?_⟩
    · rw [adding.ok_iff, Fits, full]
      exact fun none => some (List.length_eq_zero_iff.mp none.symm)
    · rw [adding.after, full, List.take_zero, take_nil, front]

theorem fits_iff_length {limit : Nat} {fullText flushText : Option String} {taken : Array UInt8} {bytes : List UInt8} :
    ({ room := some limit, fullText, flushText, taken } : Writer).Fits bytes ↔ bytes.length ≤ limit := min_eq_right_iff

theorem Took.all {writer : Writer} {bytes : List UInt8} (took : ({} : Writer).Took bytes writer) :
    writer.taken.toList = bytes := by
  rw [took, taken_take]
  exact List.take_length

theorem Took.front {limit : Nat} {fullText flushText : Option String} {writer : Writer} {bytes : List UInt8}
    (took : ({ room := some limit, fullText, flushText } : Writer).Took bytes writer) :
    writer.taken.toList = bytes.take limit := by
  rw [took, taken_take]
  exact List.take_eq_take_min.symm

end Writer

namespace JsonArray

inductive Step
  | write (record : Record)
  | close
deriving DecidableEq

def step (array : JsonArray) : Step → Except Failure Unit × JsonArray
  | .write record => array.write record
  | .close => array.close

-- The array after steps, going on after those that fail.
def afterSteps (array : JsonArray) : List Step → JsonArray
  | [] => array
  | step :: steps => (array.step step).2.afterSteps steps

def accepted (array : JsonArray) : List Step → List Record
  | [] => []
  | .write record :: steps =>
    (match (array.write record).1 with
      | .ok () => [record]
      | .error _ => []) ++ (array.write record).2.accepted steps
  | .close :: steps => array.close.2.accepted steps

def entryBytes (written : Nat) (record : Record) : List UInt8 :=
  [(if written = 0 then Delimiter.opening else .separating).byte] ++ record.jsonBytes ++ ['\n'.toUInt8]

def closingBytes (written : Nat) : List UInt8 :=
  (if written = 0 then [Delimiter.opening.byte] else []) ++ [Delimiter.closing.byte]

-- What steps write when everything is taken: one more record each, up to the first close.
def bytesOf (written : Nat) : List Step → List UInt8
  | [] => []
  | .write record :: steps => entryBytes written record ++ bytesOf (written + 1) steps
  | .close :: _ => closingBytes written

variable {array : JsonArray} {start : Writer} {bytes : List UInt8}

theorem adding_entry (unclosed : array.closed = false) (record : Record) :
    Adding array.writer (entryBytes array.written record) ((array.write record).1, (array.write record).2.writer) :=
  adding_write unclosed (adding_nothing (array.writer.fits_nil) array.writer.take_nil.symm) record

theorem adding_closing (unclosed : array.closed = false) :
    ∃ result : Except Failure Unit, Adding array.writer (closingBytes array.written) (result, array.close.2.writer) ∧
      (array.close.1 = .ok () ↔ result = .ok () ∧ array.writer.flushText = none) := by
  have nothing := adding_nothing array.writer.fits_nil array.writer.take_nil.symm
  have opened : Adding array.writer (if array.written = 0 then [Delimiter.opening.byte] else [])
      (if array.written = 0 then delimit (.ok (), array.writer) .opening else (.ok (), array.writer)) := by
    split
    next => exact adding_next nothing (.delimiting .opening) (Writer.adds_byte Delimiter.opening.byte)
    next => exact nothing
  have closing := adding_next opened (.delimiting .closing) (Writer.adds_byte Delimiter.closing.byte)
  simp only [JsonArray.close, unclosed, Bool.false_eq_true, ↓reduceIte, delimit] at closing ⊢
  generalize next _ _ _ = progress at closing ⊢
  obtain ⟨result, reached⟩ := progress
  refine ⟨result, ?_⟩
  cases result with
  | error failure =>
    refine ⟨closing, ?_⟩
    simp [next]
  | ok _ =>
    have kept : reached.flushText = array.writer.flushText := congrArg (·.flushText) closing.after
    simp only [next, Writer.flush, kept]
    cases array.writer.flushText with
    | none => exact ⟨closing, by simp [Except.mapError]⟩
    | some text => exact ⟨closing, by simp [Except.mapError]⟩

theorem closed_write (array : JsonArray) (record : Record) : (array.write record).2.closed = array.closed := by
  unfold JsonArray.write
  split
  next => rfl
  next =>
    dsimp only
    generalize next _ _ _ = progress
    obtain ⟨result, reached⟩ := progress
    cases result <;> rfl

theorem written_step (array : JsonArray) (step : Step) :
    (array.step step).2.written = array.written + (array.accepted [step]).length := by
  cases step with
  | write record =>
    simp only [JsonArray.step, accepted, JsonArray.write]
    split
    next => rfl
    next =>
      generalize next _ _ _ = progress
      obtain ⟨result, reached⟩ := progress
      cases result <;> rfl
  | close =>
    simp only [JsonArray.step, accepted, JsonArray.close]
    split <;> rfl

-- An open array that has been asked to write these bytes. Once something has not fit there is no room for any byte,
-- so it does not matter which delimiter a later step would choose.
structure Underway (start : Writer) (bytes : List UInt8) (count : Nat) (array : JsonArray) : Prop where
  unclosed : array.closed = false
  took : start.Took bytes array.writer
  counted : start.Fits bytes → array.written = count

namespace Underway

variable {count : Nat} (underway : Underway start bytes count array)
include underway

theorem write (record : Record) :
    Adding start (bytes ++ entryBytes count record) ((array.write record).1, (array.write record).2.writer) ∧
      Underway start (bytes ++ entryBytes count record) (count + 1) (array.write record).2 := by
  have adding := underway.took.adding (adding_entry underway.unclosed record) (List.concat_ne_nil _ _)
    fun fits => congrArg (entryBytes · record) (underway.counted fits)
  refine ⟨adding, ?_, adding.after, ?_⟩
  · exact (closed_write array record).trans underway.unclosed
  · intro fits
    have counted := (counted_of_write underway.unclosed (adding.ok_iff.mpr fits)).2
    rw [counted, underway.counted (Writer.fits_append_iff.mp fits).1]

theorem close :
    start.Took (bytes ++ closingBytes count) array.close.2.writer ∧
      (array.close.1 = .ok () ↔ start.Fits (bytes ++ closingBytes count) ∧ start.flushText = none) := by
  obtain ⟨result, closing, through⟩ := adding_closing underway.unclosed
  have adding := underway.took.adding closing (List.concat_ne_nil _ _) fun fits =>
    congrArg closingBytes (underway.counted fits)
  have kept : array.writer.flushText = start.flushText := congrArg (·.flushText) underway.took
  rw [through, adding.ok_iff, kept]
  exact ⟨adding.after, Iff.rfl⟩

end Underway

theorem closed_close (array : JsonArray) : array.close.2.closed = true := by
  unfold JsonArray.close
  split
  next closed => exact closed
  next => rfl

def Step.refusal : Step → Cause
  | .write _ => .writtenAfterClose
  | .close => .closedTwice

theorem step_of_closed (closed : array.closed = true) (step : Step) :
    array.step step = (.error (Failure.of step.refusal), array) := by
  cases step with
  | write record => simp [JsonArray.step, JsonArray.write, closed, Step.refusal]
  | close => simp [JsonArray.step, JsonArray.close, closed, Step.refusal]

theorem afterSteps_of_closed (closed : array.closed = true) (steps : List Step) : array.afterSteps steps = array := by
  induction steps with
  | nil => rfl
  | cons step steps ih => rw [afterSteps, step_of_closed closed, ih]

theorem Underway.afterSteps {count : Nat} (underway : Underway start bytes count array) (steps : List Step) :
    start.Took (bytes ++ bytesOf count steps) (array.afterSteps steps).writer ∧
      (.close ∈ steps → (array.afterSteps steps).closed = true) ∧
      (.close ∉ steps →
        Underway start (bytes ++ bytesOf count steps) (count + steps.length) (array.afterSteps steps)) := by
  induction steps generalizing array bytes count with
  | nil =>
    rw [bytesOf, List.append_nil]
    exact ⟨underway.took, nofun, fun _ => underway⟩
  | cons step steps ih =>
    cases step with
    | write record =>
      obtain ⟨took, closed, running⟩ := ih (underway.write record).2
      rw [List.append_assoc, Nat.add_assoc, Nat.add_comm 1] at running
      rw [List.append_assoc] at took
      refine ⟨took, ?_, ?_⟩
      · intro member
        exact closed ((List.mem_cons.mp member).resolve_left nofun)
      · intro absent
        exact running fun member => absent (List.mem_cons_of_mem _ member)
    | close =>
      have same : array.afterSteps (.close :: steps) = array.close.2 :=
        afterSteps_of_closed array.closed_close steps
      rw [same]
      exact ⟨underway.close.1, fun _ => array.closed_close, fun absent => absurd List.mem_cons_self absent⟩

theorem accepted_cons (array : JsonArray) (step : Step) (steps : List Step) :
    array.accepted (step :: steps) = array.accepted [step] ++ (array.step step).2.accepted steps := by
  cases step with
  | write record => simp only [accepted, List.append_nil, JsonArray.step]
  | close => rfl

theorem written_afterSteps (array : JsonArray) (steps : List Step) :
    (array.afterSteps steps).written = array.written + (array.accepted steps).length := by
  induction steps generalizing array with
  | nil => rfl
  | cons step steps ih => rw [afterSteps, ih, written_step, accepted_cons array step steps, List.length_append, Nat.add_assoc]

theorem underway_nothing (writer : Writer) : Underway writer [] 0 { writer } := ⟨rfl, writer.took_nothing, fun _ => rfl⟩

-- After any steps, a writer with a limit has taken the front of what a writer without one has taken, and what has been
-- counted are the records whose writes went through. As long as there has been no close, the next write goes through if
-- the other writer's bytes fit together with its own, and a close does if those of the whole array do and flushing works.
-- A closed array refuses whatever comes and stays as it is.
theorem writes_what_fits (limit : Nat) (fullText flushText : Option String) (steps : List Step) :
    let start : JsonArray := { writer := { room := some limit, fullText, flushText } }
    let cut := start.afterSteps steps
    let whole := ({} : JsonArray).afterSteps steps
    whole.writer.taken.toList = bytesOf 0 steps ∧
      cut.writer.taken.toList = whole.writer.taken.toList.take limit ∧
      cut.written = (start.accepted steps).length ∧
      (.close ∉ steps →
        (∀ record, (cut.write record).1 = .ok () ↔ (whole.write record).2.writer.taken.size ≤ limit) ∧
          (cut.close.1 = .ok () ↔ whole.close.2.writer.taken.size ≤ limit ∧ flushText = none)) ∧
      (.close ∈ steps → ∀ step, ∃ failure, cut.step step = (.error failure, cut) ∧ failure.kind = .internal) := by
  intro start cut whole
  obtain ⟨cutTook, cutClosed, cutUnderway⟩ := (underway_nothing start.writer).afterSteps steps
  obtain ⟨wholeTook, -, wholeUnderway⟩ := (underway_nothing {}).afterSteps steps
  have all : whole.writer.taken.toList = bytesOf 0 steps := wholeTook.all
  refine ⟨all, ?_, ?_, ?_, ?_⟩
  · rw [all]
    exact cutTook.front
  · exact (written_afterSteps start steps).trans (Nat.zero_add _)
  · intro absent
    refine ⟨fun record => ?_, ?_⟩
    · rw [((cutUnderway absent).write record).1.ok_iff, Writer.fits_iff_length, ← Array.length_toList,
        ((wholeUnderway absent).write record).2.took.all]
    · rw [(cutUnderway absent).close.2, Writer.fits_iff_length, ← Array.length_toList, (wholeUnderway absent).close.1.all]
  · intro member step
    exact ⟨_, step_of_closed (cutClosed member) step, by cases step <;> rfl⟩

-- There is room for one record and a close, but not for a second record, after which a close is too late as well.
theorem writes_what_fits_cut :
    let start : JsonArray := { writer := { room := some 20 } }
    let cut := start.afterSteps [.write bracketed]
    let shut := start.afterSteps [.write bracketed, .write bracketed, .close]
    .close ∉ [Step.write bracketed] ∧ (cut.write bracketed).1 ≠ .ok () ∧ cut.close.1 = .ok () ∧
      .close ∈ [Step.write bracketed, .write bracketed, .close] ∧ shut.written = 1 ∧
      ∃ failure, shut.step .close = (.error failure, shut) ∧ failure.kind = .internal := by
  intro start cut shut
  have unclosed : .close ∉ [Step.write bracketed] := by decide
  have closed : .close ∈ [Step.write bracketed, .write bracketed, .close] := by decide
  obtain ⟨-, -, -, next, -⟩ := writes_what_fits 20 none none [.write bracketed]
  obtain ⟨-, -, counted, -, refused⟩ := writes_what_fits 20 none none [.write bracketed, .write bracketed, .close]
  refine ⟨unclosed, ?_, ?_, closed, counted.trans (by decide +kernel), refused closed .close⟩
  · rw [Ne, (next unclosed).1 bracketed]
    decide +kernel
  · rw [(next unclosed).2]
    decide +kernel

end JsonArray

end DeltaQuery
