import DeltaQuery.Pipeline
import DeltaQuery.Proofs.ArrayText
import DeltaQuery.Proofs.Bounds
import DeltaQuery.Proofs.Compiling
import DeltaQuery.Proofs.Formula

namespace DeltaQuery

namespace Writer

def Fits (writer : Writer) (bytes : List UInt8) : Prop := writer.accepted bytes = bytes.length

theorem accepted_le (writer : Writer) (bytes : List UInt8) : writer.accepted bytes ≤ bytes.length := by
  unfold accepted
  split
  · exact Nat.le_refl _
  · exact Nat.min_le_right _ _

theorem accepted_append (writer : Writer) (bytes more : List UInt8) :
    writer.accepted (bytes ++ more) = writer.accepted bytes + (writer.take bytes).accepted more := by
  cases room : writer.room with
  | none => simp [accepted, take, room]
  | some count =>
    simp only [accepted, take, room, Option.map_some, List.length_append]
    omega

theorem fits_append_iff {writer : Writer} {bytes more : List UInt8} :
    writer.Fits (bytes ++ more) ↔ writer.Fits bytes ∧ (writer.take bytes).Fits more := by
  have first := writer.accepted_le bytes
  have second := (writer.take bytes).accepted_le more
  simp only [Fits, accepted_append, List.length_append]
  omega

theorem Fits.of_isPrefix {writer : Writer} {bytes front : List UInt8} (fits : writer.Fits bytes)
    (inside : front <+: bytes) : writer.Fits front := by
  obtain ⟨rest, rfl⟩ := inside
  exact (fits_append_iff.mp fits).1

theorem fits_nil (writer : Writer) : writer.Fits [] := Nat.le_zero.mp (writer.accepted_le [])

theorem accepted_take_of_not_fits {writer : Writer} {bytes : List UInt8} (short : ¬writer.Fits bytes) (more : List UInt8) :
    (writer.take bytes).accepted more = 0 := by
  cases room : writer.room with
  | none => exact absurd (by simp [Fits, accepted, room]) short
  | some count =>
    simp only [Fits, accepted, room] at short
    simp only [accepted, take, room, Option.map_some]
    omega

@[simp]
theorem take_nil (writer : Writer) : writer.take [] = writer := by
  obtain ⟨room, fullText, flushText, taken⟩ := writer
  cases room <;> simp [take]

theorem take_take (writer : Writer) (bytes more : List UInt8) :
    (writer.take bytes).take more = writer.take (bytes ++ more) := by
  obtain ⟨room, fullText, flushText, taken⟩ := writer
  cases room <;> simp [take, Nat.sub_sub, ← Array.toList_inj]

theorem taken_take (writer : Writer) (bytes : List UInt8) :
    (writer.take bytes).taken.toList = writer.taken.toList ++ bytes := by
  simp [take]

end Writer

-- A write of these bytes, begun with this writer: it goes through if they all fit, and else what fits of them is taken.
structure Adding {ε : Type} (writer : Writer) (bytes : List UInt8) (result : Except ε Unit × Writer) : Prop where
  ok_iff : result.1 = .ok () ↔ writer.Fits bytes
  after : result.2 = writer.take (bytes.take (writer.accepted bytes))

theorem Adding.all {ε : Type} {writer : Writer} {bytes : List UInt8} {result : Except ε Unit × Writer}
    (adding : Adding writer bytes result) (fits : writer.Fits bytes) : result.2 = writer.take bytes := by
  rw [adding.after, fits, List.take_length]

theorem Adding.short {ε : Type} {writer : Writer} {bytes : List UInt8} {result : Except ε Unit × Writer}
    (adding : Adding writer bytes result) {error : ε} (failed : result.1 = .error error) : ¬writer.Fits bytes :=
  fun fits => nomatch failed.symm.trans (adding.ok_iff.mpr fits)

theorem Adding.isPrefix {ε : Type} {writer : Writer} {bytes : List UInt8} {last : UInt8} {result : Except ε Unit × Writer}
    (adding : Adding writer (bytes ++ [last]) result) {error : ε} (failed : result.1 = .error error) :
    result.2.taken.toList <+: writer.taken.toList ++ bytes := by
  have short := adding.short failed
  have most := writer.accepted_le (bytes ++ [last])
  have less : writer.accepted (bytes ++ [last]) ≤ bytes.length := by
    rw [Writer.Fits] at short
    rw [List.length_append, List.length_singleton] at most short
    omega
  rw [adding.after, Writer.taken_take, List.take_append_of_le_length less, List.prefix_append_right_inj]
  exact List.take_prefix _ _

def Adds (part : Writer → Except WriteFault Unit × Writer) (bytes : List UInt8) : Prop :=
  ∀ writer, Adding writer bytes (part writer)

theorem Writer.adds_byte (byte : UInt8) : Adds (fun writer => writer.byte byte) [byte] := by
  intro writer
  by_cases accepted : writer.accepted [byte] = 1
  · simp only [Writer.byte, if_pos accepted]
    exact ⟨iff_of_true rfl accepted, by rw [accepted]; rfl⟩
  · have none : writer.accepted [byte] = 0 := by
      have most := writer.accepted_le [byte]
      rw [List.length_singleton] at most
      omega
    simp only [Writer.byte, if_neg accepted]
    exact ⟨iff_of_false nofun accepted, by rw [none, List.take_zero, take_nil]⟩

theorem Writer.adds_all (bytes : List UInt8) : Adds (fun writer => writer.all bytes) bytes := by
  intro writer
  by_cases fits : writer.accepted bytes = bytes.length
  · simp only [Writer.all, if_pos fits]
    exact ⟨iff_of_true rfl fits, by rw [fits, List.take_length]⟩
  · simp only [Writer.all, if_neg fits]
    exact ⟨iff_of_false nofun fits, rfl⟩

namespace JsonArray

theorem adding_nothing {writer start : Writer} {bytes : List UInt8} (fits : start.Fits bytes)
    (same : writer = start.take bytes) : Adding (ε := Failure) start bytes (.ok (), writer) :=
  ⟨iff_of_true rfl fits, by rw [same, fits, List.take_length]⟩

theorem adding_next {writer : Writer} {bytes more : List UInt8} {progress : Progress}
    (adding : Adding writer bytes progress) (action : SinkAction) {part : Writer → Except WriteFault Unit × Writer}
    (adds : Adds part more) : Adding writer (bytes ++ more) (next progress action part) := by
  obtain ⟨result, reached⟩ := progress
  cases result with
  | error failure =>
    have short := adding.short rfl
    refine ⟨iff_of_false nofun fun fits => short (Writer.fits_append_iff.mp fits).1, ?_⟩
    rw [Writer.accepted_append, Writer.accepted_take_of_not_fits short, Nat.add_zero,
      List.take_append_of_le_length (writer.accepted_le bytes)]
    exact adding.after
  | ok _ =>
    have fits : writer.Fits bytes := adding.ok_iff.mp rfl
    have same : reached = writer.take bytes := adding.all fits
    have added := adds reached
    have after : (part reached).2 = writer.take ((bytes ++ more).take (writer.accepted (bytes ++ more))) := by
      rw [added.after, same, Writer.take_take, Writer.accepted_append, fits, List.take_length_add_append]
    have through : (part reached).1 = .ok () ↔ writer.Fits (bytes ++ more) := by
      rw [added.ok_iff, same, Writer.fits_append_iff, and_iff_right fits]
    simp only [next]
    cases result : (part reached).1 with
    | ok _ => exact ⟨iff_of_true rfl (through.mp result), after⟩
    | error fault =>
      have short : ¬writer.Fits (bytes ++ more) := fun fits => nomatch result.symm.trans (through.mpr fits)
      exact ⟨iff_of_false nofun short, after⟩

theorem adding_write {start : Writer} {bytes : List UInt8} {array : JsonArray} (unclosed : array.closed = false)
    (before : Adding (ε := Failure) start bytes (.ok (), array.writer)) (record : Record) :
    Adding start
      (bytes ++ ([(if array.written = 0 then Delimiter.opening else .separating).byte] ++ record.jsonBytes ++ ['\n'.toUInt8]))
      ((array.write record).1, (array.write record).2.writer) := by
  simp only [JsonArray.write, unclosed, Bool.false_eq_true, ↓reduceIte, delimit]
  generalize (if array.written = 0 then Delimiter.opening else .separating) = delimiter
  have delimited := adding_next before (.delimiting delimiter) (Writer.adds_byte delimiter.byte)
  have adding := adding_next (adding_next delimited .encoding (Writer.adds_all record.jsonBytes)) .terminating
    (Writer.adds_all ['\n'.toUInt8])
  rw [List.append_assoc, List.append_assoc, ← List.append_assoc [_]] at adding
  split
  next failure failed => exact ⟨iff_of_false nofun (adding.short failed), adding.after⟩
  next done => exact ⟨iff_of_true rfl (adding.ok_iff.mp done), adding.after⟩

theorem counted_of_write {array : JsonArray} {record : Record} (unclosed : array.closed = false)
    (done : (array.write record).1 = .ok ()) :
    (array.write record).2.closed = false ∧ (array.write record).2.written = array.written + 1 := by
  simp only [JsonArray.write, unclosed, Bool.false_eq_true, ↓reduceIte] at done ⊢
  split at done
  next => cases done
  next => exact ⟨rfl, rfl⟩

-- What has been written of an array with these records: nothing before the first of them.
def begun (records : List Record) : List UInt8 := if records = [] then [] else Text.bytes (opened records)

-- An array that these records have been written to, which it started with this writer.
structure Holds (start : Writer) (records : List Record) (array : JsonArray) : Prop where
  unclosed : array.closed = false
  written : array.written = records.length
  fits : start.Fits (begun records)
  writer : array.writer = start.take (begun records)

theorem holds_nothing (writer : Writer) : Holds writer [] { writer } :=
  ⟨rfl, rfl, writer.fits_nil, writer.take_nil.symm⟩

theorem Holds.written_eq_zero_iff {start : Writer} {records : List Record} {array : JsonArray}
    (holds : Holds start records array) : array.written = 0 ↔ records = [] := by
  rw [holds.written, List.length_eq_zero_iff]

theorem jsonBytes_eq (record : Record) : record.jsonBytes = Text.bytes record.toJson.chars := by
  rw [Record.jsonBytes, Text.toList_toUTF8, Json.render, String.toList_ofList]

theorem bytes_entry (record : Record) : Text.bytes record.entry = record.jsonBytes ++ ['\n'.toUInt8] := by
  rw [Record.entry, Text.bytes_append, jsonBytes_eq]
  rfl

theorem bytes_framed (records : List Record) :
    Text.bytes (framed records) = Text.bytes (opened records) ++ [Delimiter.closing.byte] := by
  rw [framed, Text.bytes_append]
  rfl

theorem begun_isPrefix (records more : List Record) : begun records <+: Text.bytes (opened (records ++ more)) := by
  unfold begun
  split
  · exact List.nil_prefix
  · exact bytes_isPrefix (opened_isPrefix records more)

theorem bytes_opened_concat (records : List Record) (record : Record) :
    Text.bytes (opened (records ++ [record])) = begun records ++
      ([(if records = [] then Delimiter.opening else .separating).byte] ++ record.jsonBytes ++ ['\n'.toUInt8]) := by
  rw [opened, List.map_append, List.map_singleton, Json.commaSeparated_concat, List.append_assoc [_], ← bytes_entry]
  split
  next none =>
    rw [begun, if_pos (List.map_eq_nil_iff.mp none), if_pos (List.map_eq_nil_iff.mp none)]
    rfl
  next some =>
    have nonempty : records ≠ [] := mt List.map_eq_nil_iff.mpr some
    rw [begun, if_neg nonempty, if_neg nonempty, ← List.cons_append, Text.bytes_append]
    rfl

theorem begun_concat (records : List Record) (record : Record) :
    begun (records ++ [record]) = Text.bytes (opened (records ++ [record])) := if_neg (List.concat_ne_nil _ _)

theorem Holds.write {start : Writer} {records : List Record} {array : JsonArray} (holds : Holds start records array)
    (record : Record) :
    Adding start (begun (records ++ [record])) ((array.write record).1, (array.write record).2.writer) ∧
      ((array.write record).1 = .ok () → Holds start (records ++ [record]) (array.write record).2) := by
  have concat := bytes_opened_concat records record
  rw [← begun_concat] at concat
  have adding := adding_write holds.unclosed (adding_nothing holds.fits holds.writer) record
  simp only [holds.written_eq_zero_iff] at adding
  rw [← concat] at adding
  refine ⟨adding, ?_⟩
  intro done
  obtain ⟨unclosed, counted⟩ := counted_of_write holds.unclosed done
  have fits := adding.ok_iff.mp done
  refine ⟨unclosed, ?_, fits, adding.all fits⟩
  rw [counted, holds.written, List.length_append, List.length_singleton]

theorem Holds.open {start : Writer} {records : List Record} {array : JsonArray} (holds : Holds start records array) :
    Adding start (Text.bytes (opened records))
      (if array.written = 0 then delimit (.ok (), array.writer) .opening else (.ok (), array.writer)) := by
  have nothing := adding_nothing holds.fits holds.writer
  by_cases none : records = []
  · have opening := adding_next nothing (.delimiting .opening) (Writer.adds_byte Delimiter.opening.byte)
    rw [begun, if_pos none] at opening
    rw [if_pos (holds.written_eq_zero_iff.mpr none), none]
    exact opening
  · rw [begun, if_neg none] at nothing
    rw [if_neg (mt holds.written_eq_zero_iff.mp none)]
    exact nothing

-- A close goes through if the last bracket fits and flushing works; one that fails before it flushes leaves off before
-- that bracket.
theorem Holds.close {start : Writer} {records : List Record} {array : JsonArray} (holds : Holds start records array) :
    (array.close.1 = .ok () ↔ start.Fits (Text.bytes (framed records)) ∧ start.flushText = none) ∧
      (array.close.1 = .ok () →
        array.close.2.writer.taken.toList = start.taken.toList ++ Text.bytes (framed records)) ∧
      ∀ failure, array.close.1 = .error failure → (∀ fault, failure ≠ Failure.of (.sink .flushing fault)) →
        array.close.2.writer.taken.toList <+: start.taken.toList ++ Text.bytes (opened records) := by
  have closing := adding_next holds.open (.delimiting .closing) (Writer.adds_byte Delimiter.closing.byte)
  rw [bytes_framed]
  simp only [JsonArray.close, holds.unclosed, Bool.false_eq_true, ↓reduceIte, delimit] at closing ⊢
  generalize next _ _ _ = progress at closing ⊢
  obtain ⟨result, reached⟩ := progress
  cases result with
  | error failure =>
    exact ⟨iff_of_false nofun fun both => closing.short rfl both.1, nofun, fun _ _ _ => closing.isPrefix rfl⟩
  | ok _ =>
    have fits := closing.ok_iff.mp rfl
    have same : reached = _ := closing.all fits
    have whole := congrArg (·.taken.toList) same
    have kept : reached.flushText = start.flushText := congrArg (·.flushText) same
    rw [Writer.taken_take] at whole
    simp only [next, Writer.flush, kept]
    cases start.flushText with
    | none => exact ⟨iff_of_true rfl ⟨fits, rfl⟩, fun _ => whole, nofun⟩
    | some text =>
      refine ⟨iff_of_false nofun nofun, nofun, fun failure failed notFlushing => ?_⟩
      cases failed
      exact absurd rfl (notFlushing (.refused text))

def unflushed (fault : WriteFault) : Failure := (Failure.of (.sink .flushing fault)).within .closeOutput

-- What a run leaves that had these records to write before this answer came: the array of them, or the front of it up to
-- its last bracket at most.
structure Leaves (start : Writer) (records : List Record) (answer : Answer) (result : Except Failure Nat × JsonArray) :
    Prop where
  ok_iff : (∃ count, result.1 = .ok count) ↔
    answer = .ok none ∧ start.Fits (Text.bytes (framed records)) ∧ start.flushText = none
  all : ∀ count, result.1 = .ok count →
    count = records.length ∧ result.2.writer.taken.toList = start.taken.toList ++ Text.bytes (framed records)
  front : ∀ failure, result.1 = .error failure → (∀ fault, failure ≠ unflushed fault) →
    result.2.writer.taken.toList <+: start.taken.toList ++ Text.bytes (opened records)

theorem Holds.leaves_closed {start : Writer} {records : List Record} {array : JsonArray}
    (holds : Holds start records array) : Leaves start records (.ok none)
      ((Place.closeOutput.around array.close.1).map fun _ => records.length, array.close.2) := by
  obtain ⟨through, whole, front⟩ := holds.close
  cases result : array.close.1 with
  | ok _ =>
    refine ⟨iff_of_true ⟨_, rfl⟩ ⟨rfl, through.mp result⟩, fun count counted => ?_, nofun⟩
    cases counted
    exact ⟨rfl, whole result⟩
  | error failure =>
    have fails : ¬(start.Fits (Text.bytes (framed records)) ∧ start.flushText = none) :=
      fun both => nomatch result.symm.trans (through.mpr both)
    refine ⟨iff_of_false nofun fun all => fails all.2, nofun, fun outer failed notFlushing => ?_⟩
    refine front failure result fun fault flushing => ?_
    cases failed
    exact notFlushing fault (congrArg (Failure.within · .closeOutput) flushing)

theorem Holds.front {start : Writer} {records : List Record} {array : JsonArray} (holds : Holds start records array)
    (more : List Record) :
    array.writer.taken.toList <+: start.taken.toList ++ Text.bytes (opened (records ++ more)) := by
  rw [holds.writer, Writer.taken_take, List.prefix_append_right_inj]
  exact begun_isPrefix records more

theorem Holds.leaves_unwritten {start : Writer} {records : List Record} {array : JsonArray}
    (holds : Holds start records array) {record : Record} {failure : Failure}
    (unwritten : (array.write record).1 = .error failure) (more : List Record) (answer : Answer) (outer : Failure) :
    Leaves start (records ++ [record] ++ more) answer (.error outer, (array.write record).2) := by
  have adding := (holds.write record).1
  have inside := begun_isPrefix (records ++ [record]) more
  have within : begun (records ++ [record]) <+: Text.bytes (framed (records ++ [record] ++ more)) := by
    rw [bytes_framed]
    exact inside.trans (List.prefix_append _ _)
  refine ⟨iff_of_false nofun fun all => adding.short unwritten (all.2.1.of_isPrefix within), nofun, fun _ _ _ => ?_⟩
  have reached : (array.write record).2.writer = _ := adding.after
  rw [reached, Writer.taken_take, List.prefix_append_right_inj]
  exact (List.take_prefix _ _).trans inside

-- By induction on the records, with those that are already in the array in front of them.
theorem Holds.runFrom {σ : Type} {next : Pull σ} {stream last : σ} {cancelled signal : Bool} {records done : List Record}
    {start : Writer} {array : JsonArray} (holds : Holds start done array)
    (gives : Pull.Gives next stream cancelled records last signal)
    (ended : ∀ record, (next last signal).answer ≠ .ok (some record)) {fuel : Nat} (enough : records.length ≤ fuel) :
    Leaves start (done ++ records) (next last signal).answer
      (Pipeline.runFrom next sink fuel stream cancelled array done.length) := by
  induction gives generalizing done array fuel with
  | @nothing stream cancelled =>
    rw [Pipeline.runFrom.eq_def]
    dsimp only
    split
    next failure failed =>
      obtain ⟨inner, answer, _⟩ := Place.around_kind failed
      rw [answer]
      exact ⟨iff_of_false nofun (fun all => nomatch all.1), nofun, fun _ _ _ => holds.front []⟩
    next finished =>
      rw [Place.around_eq_ok.mp finished, List.append_nil]
      exact holds.leaves_closed
    next record given => exact absurd (Place.around_eq_ok.mp given) (ended record)
  | @record stream last cancelled signal record records answer rest ih =>
    obtain ⟨fuel, rfl⟩ : ∃ less, fuel = less + 1 := ⟨fuel - 1, by simp at enough; omega⟩
    have longer : done ++ record :: records = (done ++ [record]) ++ records := by simp
    rw [longer, Pipeline.runFrom.eq_def]
    dsimp only
    rw [answer]
    split
    next failure failed => cases failed
    next none => cases none
    next given =>
      cases given
      split
      next failure failed =>
        obtain ⟨inner, unwritten, _⟩ := Place.around_kind failed
        exact holds.leaves_unwritten unwritten records _ failure
      next accepted spent => cases spent
      next less accepted same =>
        cases same
        have later := ih ((holds.write record).2 (Place.around_eq_ok.mp accepted)) ended (Nat.le_of_succ_le_succ enough)
        rw [List.length_append, List.length_singleton] at later
        exact later

-- A run that frames these records as an array, or leaves what is no text unless it could only not flush it. It goes
-- through exactly when the records are all, there is room for the array, and flushing works.
structure Frames (records : List Record) (answer : Answer) (writer : Writer) (result : Except Failure Nat × JsonArray) :
    Prop where
  isText : Json.IsText (framed records)
  isArray : Json.IsArrayOf (records.map fun record => record.toJson.chars) (framed records)
  ok_iff : (∃ count, result.1 = .ok count) ↔
    answer = .ok none ∧ writer.Fits (Text.bytes (framed records)) ∧ writer.flushText = none
  whole : ∀ count, result.1 = .ok count →
    count = records.length ∧ result.2.writer.taken.toList = Text.bytes (framed records)
  cut : ∀ failure, result.1 = .error failure → (∀ fault, failure ≠ unflushed fault) →
    result.2.writer.taken.toList <+: Text.bytes (framed records) ∧
      result.2.writer.taken.toList ≠ Text.bytes (framed records) ∧ ¬Json.IsUtf8Text result.2.writer.taken.toList

theorem Leaves.frames {writer : Writer} {records : List Record} {answer : Answer}
    {result : Except Failure Nat × JsonArray} (leaves : Leaves writer records answer result) (fresh : writer.taken = #[]) :
    Frames records answer writer result := by
  have isText := (isArrayOf_framed records).isText
  have whole := leaves.all
  have front := leaves.front
  simp only [fresh, Array.toList_empty, List.nil_append] at whole front
  refine ⟨isText, isArrayOf_framed records, leaves.ok_iff, whole, fun failure failed notFlushing => ?_⟩
  have inside := front failure failed notFlushing
  have noText := not_isUtf8Text_of_isPrefix inside
  refine ⟨inside.trans (bytes_isPrefix (List.prefix_append _ _)), fun all => noText ?_, noText⟩
  exact ⟨framed records, isText, all⟩

-- However a stream gives its records and whatever a writer takes of them, a part of an array never looks like a whole.
theorem whole_or_no_text :
    (∀ (σ : Type) (next : Pull σ) (stream last : σ) (cancelled signal : Bool) (records : List Record),
      Pull.Gives next stream cancelled records last signal →
      (∀ record, (next last signal).answer ≠ .ok (some record)) →
      ∀ fuel, records.length ≤ fuel → ∀ writer : Writer, writer.taken = #[] →
        Frames records (next last signal).answer writer
          (Pipeline.runFrom next sink fuel stream cancelled { writer } 0)) ∧
    ∀ (op : Operator) (writer : Writer), writer.taken = #[] →
      ∃ records last signal, Pull.Gives Operator.pull op false records last signal ∧
        (∀ record, (Operator.pull last signal).answer ≠ .ok (some record)) ∧
        Frames records (Operator.pull last signal).answer writer (Pipeline.run sink op { writer }) := by
  have framing {σ : Type} {next : Pull σ} {stream last : σ} {cancelled signal : Bool} {records : List Record}
      (gives : Pull.Gives next stream cancelled records last signal)
      (ended : ∀ record, (next last signal).answer ≠ .ok (some record)) {fuel : Nat} (enough : records.length ≤ fuel)
      {writer : Writer} (fresh : writer.taken = #[]) :
      Frames records (next last signal).answer writer
        (Pipeline.runFrom next sink fuel stream cancelled { writer } 0) :=
    ((holds_nothing writer).runFrom gives ended enough).frames fresh
  refine ⟨?_, ?_⟩
  · intro σ next stream last cancelled signal records gives ended fuel enough writer fresh
    exact framing gives ended enough fresh
  · intro op writer fresh
    obtain ⟨records, last, signal, gives, ended⟩ := Operator.pull_bounds.exists_gives op false
    have enough := Operator.pull_bounds.gives gives
    exact ⟨records, last, signal, gives, ended, framing gives ended (by omega) fresh⟩

def bracketed : Record := ⟨[("[\"", .text "]\\")], .insert⟩

def cutShort : Except Failure Nat × JsonArray :=
  Pipeline.runFrom Feed.pull sink 1 (.replay [bracketed]) false { writer := { room := some 15 } } 0

theorem whole_or_no_text_bracketed :
    cutShort.1 = .error ((Failure.of (.sink (.delimiting .closing) .short)).within .closeOutput) ∧
      ¬Json.IsUtf8Text cutShort.2.writer.taken.toList := by
  have gives : Pull.Gives Feed.pull (.replay [bracketed]) false [bracketed] (.replay []) false := .record rfl .nothing
  have ended : ∀ record, (Feed.pull (.replay []) false).answer ≠ .ok (some record) := nofun
  have frames : Frames [bracketed] (.ok none) { room := some 15 } cutShort :=
    whole_or_no_text.1 Feed Feed.pull _ _ _ _ _ gives ended 1 (Nat.le_refl 1) { room := some 15 } rfl
  have failed : cutShort.1 = .error ((Failure.of (.sink (.delimiting .closing) .short)).within .closeOutput) := by
    rw [cutShort, Pipeline.runFrom.eq_def]
    simp only [Feed.pull, Place.around_ok, sink]
    decide +kernel
  exact ⟨failed, (frames.cut _ failed (by simp [unflushed, Failure.of, Failure.within])).2.2⟩

end JsonArray

end DeltaQuery
