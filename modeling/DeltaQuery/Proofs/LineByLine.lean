import DeltaQuery.Proofs.OrderlyRuns
import DeltaQuery.Proofs.RecordLine
import Mathlib.Data.List.Permutation

namespace DeltaQuery

def Cause.line? : Cause → Option Nat
  | .malformedLine line => some line
  | .objectField line _ => some line
  | .undecodableLine line => some line
  | _ => none

namespace JsonLines

-- The lines of bytes. Each of them ends in a line feed, except that the last may end where the bytes do.
inductive Lines : List UInt8 → List (List UInt8) → Prop
  | nothing : Lines [] []
  | unended {line : List UInt8} (oneLine : 10 ∉ line) (some : line ≠ []) : Lines line [line]
  | ended {line bytes : List UInt8} {lines : List (List UInt8)} (oneLine : 10 ∉ line) (others : Lines bytes lines) :
    Lines (line ++ 10 :: bytes) (line :: lines)

theorem splitLines_eq (done : List (List UInt8)) (part bytes : List UInt8) :
    splitLines done part bytes = done.reverse ++ splitLines [] part bytes := by
  induction bytes generalizing done part with
  | nil =>
    rw [splitLines, splitLines]
    split <;> simp
  | cons byte bytes ih =>
    rw [splitLines, splitLines]
    split
    next => rw [ih (part.reverse :: done), ih [part.reverse], List.reverse_cons, List.append_assoc, List.reverse_singleton]
    next => exact ih done (byte :: part)

theorem lines_splitLines {part : List UInt8} (oneLine : 10 ∉ part) (bytes : List UInt8) :
    Lines (part.reverse ++ bytes) (splitLines [] part bytes) := by
  induction bytes generalizing part with
  | nil =>
    rw [splitLines, List.append_nil]
    cases part with
    | nil => exact .nothing
    | cons byte part => exact .unended (mt List.mem_reverse.mp oneLine) (by simp)
  | cons byte bytes ih =>
    rw [splitLines]
    split
    next feed =>
      rw [feed, splitLines_eq]
      exact .ended (mt List.mem_reverse.mp oneLine) (ih List.not_mem_nil)
    next other =>
      have rest := ih (List.not_mem_cons_of_ne_of_not_mem (Ne.symm other) oneLine)
      rwa [List.reverse_cons, List.append_assoc, List.singleton_append] at rest

theorem Lines.pending_eq {bytes : List UInt8} {lines : List (List UInt8)} (isLines : Lines bytes lines) :
    (ofBytes bytes).pending = lines := by
  induction isLines with
  | nothing => rfl
  | @unended line oneLine some =>
    have single : ofBytes (line ++ []) = ⟨[line], 0⟩ := ofBytes_line oneLine some List.mem_cons_self
    rw [List.append_nil] at single
    rw [single]
  | @ended line bytes lines oneLine _ ih =>
    have first : splitLines [] [] (line ++ 10 :: bytes) = line :: splitLines [] [] bytes := by
      rw [splitLines_append oneLine, splitLines, if_pos rfl, splitLines_eq, List.append_nil, List.reverse_reverse,
        List.reverse_singleton, List.singleton_append]
    exact first.trans (congrArg (line :: ·) ih)

theorem lines_iff {bytes : List UInt8} {lines : List (List UInt8)} : Lines bytes lines ↔ lines = (ofBytes bytes).pending := by
  constructor
  · intro isLines
    exact isLines.pending_eq.symm
  · rintro rfl
    exact lines_splitLines List.not_mem_nil bytes

def text? (line : List UInt8) : Option (List Char) := (String.fromUTF8? ⟨line.toArray⟩).map fun text => Text.trimmed text.toList

-- The forms of a line, by the JSON rule alone: its fields and its flag by name, in either order and without the flag if it is
-- an insert, or the flag and the fields in an array. Nothing else stands in it.
inductive Form : Json → Bool → List (String × Json) → Prop
  | named {members : List (String × Json)} {retract : Bool} {fields : List (String × Json)}
    (given : members.Perm [("fields", .object fields), ("retract", .bool retract)]) : Form (.object members) retract fields
  | unflagged (fields : List (String × Json)) : Form (.object [("fields", .object fields)]) false fields
  | placed (retract : Bool) (fields : List (String × Json)) : Form (.array [.bool retract, .object fields]) retract fields

theorem lineParts?_eq_some {json : Json} {retract : Bool} {fields : List (String × Json)} :
    lineParts? json = some (retract, fields) ↔ Form json retract fields := by
  constructor
  · intro parts
    unfold lineParts? at parts
    split at parts <;> cases parts
    · exact .unflagged fields
    · exact .named (.refl _)
    · exact .named (.swap _ _ _)
    · exact .placed retract fields
  · intro form
    cases form with
    | named given => rcases List.perm_pair.mp given with rfl | rfl <;> rfl
    | unflagged => rfl
    | placed => rfl

-- What a text decodes to, if it does: every column has the value of the last field of its name, and they stand in order.
inductive Decodes (text : List Char) : Record → Prop
  | record {json : Json} {retract : Bool} {fields : List (String × Json)} {columns : List (String × Value)}
    (isJson : Json.ofChars? text = some json) (form : Form json retract fields) (ascending : ByName.Ascending columns)
    (valued : ∀ name, (columns.lookup name).map some = (fields.reverse.lookup name).map Value.ofJson?) :
    Decodes text { columns, kind := if retract then .retract else .insert }

def Holds (line : List UInt8) (record : Record) : Prop := ∃ text, text? line = some text ∧ Decodes text record

theorem fieldValues_eq_ok {number : Nat} {fields : List (String × Json)} {columns : List (String × Value)} :
    fieldValues number fields = .ok columns ↔ ByName.Converts Value.ofJson? fields columns := by
  unfold ByName.Converts
  induction fields generalizing columns with
  | nil => simp [fieldValues, eq_comm]
  | cons field fields ih =>
    rw [fieldValues, List.forall₂_cons_left_iff]
    cases Value.ofJson? field.2 with
    | none => simp
    | some value =>
      cases rest : fieldValues number fields with
      | error cause =>
        rw [rest] at ih
        simp [Except.map, ← ih]
      | ok values =>
        rw [rest] at ih
        simp only [Except.map, Except.ok.injEq, Option.some.injEq, ← ih]
        constructor
        · rintro rfl
          exact ⟨(field.1, value), values, ⟨rfl, rfl⟩, rfl, rfl⟩
        · rintro ⟨⟨_, _⟩, _, ⟨rfl, rfl⟩, rfl, rfl⟩
          rfl

theorem decodeLine_eq_ok {number : Nat} {text : List Char} {record : Record} :
    decodeLine number text = .ok record ↔ Decodes text record := by
  have columnsOf (fields : List (String × Json)) (columns : List (String × Value)) :
      fieldValues number (ByName.sorted fields) = .ok columns ↔ ByName.Ascending columns ∧
        ∀ name, (columns.lookup name).map some = (fields.reverse.lookup name).map Value.ofJson? := by
    have sorted := ByName.ascending_sorted fields
    simp only [fieldValues_eq_ok, ← ByName.lookup_sorted]
    exact ⟨fun converts => ⟨converts.ascending sorted, converts.lookup⟩, fun both => sorted.converts both.1 both.2⟩
  constructor
  · intro decoded
    unfold decodeLine at decoded
    split at decoded
    · cases decoded
    · rename_i retract fields parts
      obtain ⟨json, isJson, form⟩ := Option.bind_eq_some_iff.mp parts
      cases values : fieldValues number (ByName.sorted fields) with
      | error cause =>
        rw [values] at decoded
        cases decoded
      | ok columns =>
        rw [values] at decoded
        cases decoded
        obtain ⟨ascending, valued⟩ := (columnsOf fields columns).mp values
        exact .record isJson (lineParts?_eq_some.mp form) ascending valued
  · rintro ⟨isJson, form, ascending, valued⟩
    rw [decodeLine, isJson, Option.bind_some, lineParts?_eq_some.mpr form]
    dsimp only
    rw [(columnsOf _ _).mpr ⟨ascending, valued⟩]
    rfl

-- The answer for a line under a number: the record that it holds or, if it holds none, an evaluation error that has the number.
inductive Answered (number : Nat) (line : List UInt8) : Except Cause Record → Prop
  | read {record : Record} (holds : Holds line record) : Answered number line (.ok record)
  | refused {cause : Cause} (nothing : ∀ record, ¬ Holds line record) (kind : cause.kind = .evaluation)
    (numbered : cause.line? = some number) : Answered number line (.error cause)

theorem answered_decodeLine (number : Nat) {line : List UInt8} {text : List Char} (isText : text? line = some text) :
    Answered number line (decodeLine number text) := by
  cases decoded : decodeLine number text with
  | ok record => exact .read ⟨text, isText, decodeLine_eq_ok.mp decoded⟩
  | error cause =>
    have nothing (record : Record) : ¬ Holds line record := by
      rintro ⟨other, same, decodes⟩
      cases isText.symm.trans same
      cases decoded.symm.trans (decodeLine_eq_ok.mpr decodes)
    rcases decodeLine_error decoded with rfl | ⟨name, rfl⟩ <;> exact .refused nothing rfl rfl

def results (counted : Nat) : List (List UInt8) → List (Except Cause Record)
  | [] => []
  | line :: lines =>
    match text? line with
    | none => .error (.undecodableLine (counted + 1)) :: results counted lines
    | some text =>
      if text.isEmpty then results (counted + 1) lines
      else decodeLine (counted + 1) text :: results (counted + 1) lines

def answer (result : Except Cause Record) : Answer := failing (result.map some)

-- What a reader has still to give.
def left (reader : JsonLines) : List (Except Cause Record) := results reader.counted reader.pending

theorem pullFrom_results (counted : Nat) (lines : List (List UInt8)) :
    (pullFrom counted lines).1 = (results counted lines).head?.elim (.ok none) (Except.map some) ∧
      (pullFrom counted lines).2.left = (results counted lines).tail := by
  induction lines generalizing counted with
  | nil => exact ⟨rfl, rfl⟩
  | cons line lines ih =>
    rw [pullFrom, results, text?]
    cases String.fromUTF8? ⟨line.toArray⟩ with
    | none => exact ⟨rfl, rfl⟩
    | some text =>
      dsimp only [Option.map_some]
      split
      next => exact ih (counted + 1)
      next => exact ⟨rfl, rfl⟩

theorem answers_lines (signals : List Bool) (reader : JsonLines) :
    Pull.answers Feed.pull signals (.lines reader) =
      (reader.left.map answer ++ List.replicate signals.length (Except.ok none)).take signals.length := by
  induction signals generalizing reader with
  | nil => rfl
  | cons cancelled signals ih =>
    obtain ⟨first, rest⟩ := pullFrom_results reader.counted reader.pending
    have pulled : Pull.answers Feed.pull (cancelled :: signals) (.lines reader) =
        failing reader.pull.1 :: Pull.answers Feed.pull signals (.lines reader.pull.2) := rfl
    rw [pulled, ih, pull, first, rest, left]
    cases results reader.counted reader.pending with
    | nil => simp [List.replicate_succ]
    | cons result others =>
      -- The end is there often enough, with one pull more or less.
      have enough : signals.length ≤ signals.length + 1 + others.length := by omega
      simp [List.take_append, List.take_replicate, answer, enough]

-- What is answered for a line at a place. The number that an error has for it is the place counted from 1 if all lines
-- before it are text, and only then.
def Answers (lines : List (List UInt8)) (placed : List UInt8 × Nat) (result : Except Cause Record) : Prop :=
  ∃ number, Answered number placed.1 result ∧
    (number = placed.2 + 1 ↔ ∀ earlier ∈ lines.take placed.2, (text? earlier).isSome)

theorem Answered.answers {line : List UInt8} {before after : List (List UInt8)} {result : Except Cause Record}
    (answered : Answered (before.countP (fun line => (text? line).isSome) + 1) line result) :
    Answers (before ++ after) (line, before.length) result := by
  refine ⟨_, answered, ?_⟩
  rw [Nat.add_right_cancel_iff, List.countP_eq_length, List.take_left]

theorem results_answer (before lines : List (List UInt8)) :
    List.Forall₂ (Answers (before ++ lines)) ((lines.zipIdx before.length).filter fun placed => text? placed.1 ≠ some [])
      (results (before.countP fun line => (text? line).isSome) lines) := by
  induction lines generalizing before with
  | nil => exact .nil
  | cons line lines ih =>
    have others := ih (before ++ [line])
    rw [List.append_assoc, List.singleton_append, List.length_append, List.length_singleton, List.countP_append,
      List.countP_singleton] at others
    rw [List.zipIdx_cons, results]
    cases isText : text? line with
    | none =>
      rw [isText] at others
      rw [List.filter_cons_of_pos (by simp [isText])]
      have nothing (record : Record) : ¬ Holds line record := by
        rintro ⟨text, same, _⟩
        cases isText.symm.trans same
      exact .cons (Answered.answers (.refused nothing rfl rfl)) others
    | some text =>
      rw [isText] at others
      cases text with
      | nil =>
        rw [List.filter_cons_of_neg (by simp [isText])]
        exact others
      | cons c text =>
        rw [List.filter_cons_of_pos (by simp [isText])]
        exact .cons (Answered.answers (answered_decodeLine _ isText)) others

-- Each line that is not text, or is not blank, gives one result, in the order of the lines: its record if it decodes, and
-- otherwise an evaluation error. Pulls give these results one after the other, whether they are errors or not, and from then
-- on the end.
theorem one_result_each (bytes : List UInt8) :
    ∃ lines results, (∀ split, Lines bytes split ↔ split = lines) ∧
      List.Forall₂ (Answers lines) (lines.zipIdx.filter fun placed => text? placed.1 ≠ some []) results ∧
      ∀ signals, Pull.answers Feed.pull signals (.lines (ofBytes bytes)) =
        (results.map answer ++ List.replicate signals.length (Except.ok none)).take signals.length :=
  ⟨_, _, fun _ => lines_iff, results_answer [] _, fun signals => answers_lines signals (ofBytes bytes)⟩

-- A retraction, a blank line, a line that is not text and so is not counted, one that is no record, and an array.
example : results 0 ["\x7b\"retract\":true,\"fields\":\x7b\"n\":1\x7d\x7d".toUTF8.toList, [], [255], ['3'.toUInt8],
      " [false, \x7b\"b\":[2], \"a\":null, \"b\":\"\"\x7d]".toUTF8.toList] =
    [.ok ⟨[("n", .int 1)], .retract⟩, .error (.undecodableLine 3), .error (.malformedLine 3),
      .ok ⟨[("a", .null), ("b", .text "")], .insert⟩] := by
  decide +kernel

end JsonLines

end DeltaQuery
