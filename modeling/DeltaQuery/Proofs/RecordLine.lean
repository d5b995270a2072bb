import DeltaQuery.Proofs.JsonText
import DeltaQuery.Proofs.SortedNames
import DeltaQuery.Proofs.Utf8
import DeltaQuery.Sink.JsonArray
import DeltaQuery.Stream.JsonLines

namespace DeltaQuery

namespace Value

mutual

-- A value that JSON has a form for: no time, and no float that is not finite.
def isPlain : Value → Bool
  | .time _ => false
  | .float x => x.isFinite
  | .tuple items => arePlain items
  | _ => true

def arePlain : List Value → Bool
  | [] => true
  | item :: items => isPlain item && arePlain items

end

mutual

def nesting : Value → Nat
  | .tuple items => nestingOfItems items + 1
  | _ => 0

def nestingOfItems : List Value → Nat
  | [] => 0
  | item :: items => max (nesting item) (nestingOfItems items)

end

mutual

theorem ofJson?_toJson : (value : Value) → value.isPlain → ofJson? value.toJson = some value
  | .null, _ => rfl
  | .bool _, _ => rfl
  | .int _, _ => rfl
  | .float x, plain => by
    have finite : x.isFinite := plain
    rw [toJson, if_pos finite, ofJson?]
  | .text _, _ => rfl
  | .tuple items, plain => by rw [toJson, ofJson?, ofJsons?_toJsons items plain, Option.map_some]

theorem ofJsons?_toJsons : (items : List Value) → arePlain items → ofJsons? (toJsons items) = some items
  | [], _ => rfl
  | item :: items, plain => by
    rw [arePlain, Bool.and_eq_true] at plain
    rw [toJsons, ofJsons?, ofJson?_toJson item plain.1, ofJsons?_toJsons items plain.2]
    rfl

end

mutual

theorem isFinite_toJson : (value : Value) → value.toJson.isFinite
  | .null => rfl
  | .bool _ => rfl
  | .int _ => rfl
  | .float x => by
    rw [toJson]
    split
    next finite => exact finite
    next => rfl
  | .text _ => rfl
  | .time _ => rfl
  | .tuple items => areFinite_toJsons items

theorem areFinite_toJsons : (items : List Value) → Json.areFinite (toJsons items)
  | [] => rfl
  | item :: items => by rw [toJsons, Json.areFinite, isFinite_toJson item, areFinite_toJsons items]; rfl

end

mutual

theorem depth_toJson : (value : Value) → value.toJson.depth = value.nesting
  | .null => rfl
  | .bool _ => rfl
  | .int _ => rfl
  | .float x => by
    rw [toJson]
    split <;> rfl
  | .text _ => rfl
  | .time _ => rfl
  | .tuple items => by rw [toJson, Json.depth, nesting, depthOfItems_toJsons items]

theorem depthOfItems_toJsons : (items : List Value) → Json.depthOfItems (toJsons items) = nestingOfItems items
  | [] => rfl
  | item :: items => by
    rw [toJsons, Json.depthOfItems, nestingOfItems, depth_toJson item, depthOfItems_toJsons items]

end

end Value

namespace Record

def sortedColumns (record : Record) : List (String × Value) := ByName.sorted record.columns

def members (columns : List (String × Value)) : List (String × Json) :=
  columns.map fun (name, value) => (name, value.toJson)

theorem sorted_members (columns : List (String × Value)) :
    ByName.sorted (members columns) = members (ByName.sorted columns) :=
  ByName.sorted_map Value.toJson columns

theorem toJson_eq (record : Record) : record.toJson = .object (members record.sortedColumns) :=
  congrArg Json.object (ByName.sorted_map Value.toJson record.columns)

theorem valuesFinite_members (columns : List (String × Value)) : Json.valuesFinite (members columns) := by
  induction columns with
  | nil => rfl
  | cons column columns ih =>
    change (column.2.toJson.isFinite && Json.valuesFinite (members columns)) = true
    rw [ih, Value.isFinite_toJson]
    rfl

theorem isFinite_toJson (record : Record) : record.toJson.isFinite := by
  rw [toJson_eq]
  exact valuesFinite_members _

theorem depthOfValues_members {limit : Nat} {columns : List (String × Value)}
    (shallow : ∀ column ∈ columns, column.2.nesting ≤ limit) :
    Json.depthOfValues (members columns) ≤ limit := by
  induction columns with
  | nil => exact Nat.zero_le _
  | cons column columns ih =>
    obtain ⟨here, others⟩ := List.forall_mem_cons.mp shallow
    refine Nat.max_le.mpr ⟨?_, ih others⟩
    rw [Value.depth_toJson]
    exact here

end Record

namespace ByName

theorem mem_of_mem_sorted {α : Type} {entries : List (String × α)} {entry : String × α} (member : entry ∈ sorted entries) :
    entry ∈ entries := by
  rw [sorted_eq_foldr] at member
  rw [← List.mem_reverse]
  generalize entries.reverse = backwards at member ⊢
  induction backwards with
  | nil => cases member
  | cons last earlier ih =>
    rcases mem_put member with rfl | held
    · exact List.mem_cons_self
    · exact List.mem_cons_of_mem _ (ih held)

end ByName

theorem fieldValues_members (line : Nat) {columns : List (String × Value)} (plain : ∀ column ∈ columns, column.2.isPlain) :
    fieldValues line (Record.members columns) = .ok columns := by
  induction columns with
  | nil => rfl
  | cons column columns ih =>
    obtain ⟨here, others⟩ := List.forall_mem_cons.mp plain
    change fieldValues line ((column.1, column.2.toJson) :: Record.members columns) = _
    rw [fieldValues, Value.ofJson?_toJson _ here, ih others]
    rfl

namespace Json

theorem printed_of_isNumeric {c : Char} (numeric : isNumeric c) : 32 ≤ c.toNat := by
  simp only [isNumeric, Bool.or_eq_true, beq_iff_eq] at numeric
  rcases numeric with ((((digit | rfl) | rfl) | rfl) | rfl) | rfl
  · have low := (Char.isDigit_iff_toNat.mp digit).1
    exact Nat.le_trans (by decide) low
  all_goals decide

theorem printed_hexDigit (n : Nat) : 32 ≤ (hexDigit n).toNat := by
  have all : ∀ digit < 16, 32 ≤ (Nat.digitChar digit).toNat := by decide
  exact all (n % 16) (Nat.mod_lt n (by decide))

theorem printed_escapedChar (c : Char) : ∀ d ∈ escapedChar c, 32 ≤ d.toNat := by
  unfold escapedChar
  split
  case h_8 =>
    split
    next =>
      simp only [List.forall_mem_cons, printed_hexDigit, List.not_mem_nil, false_implies, implies_true, and_true]
      decide
    next printed => simpa using printed
  all_goals simp

theorem printed_commaSeparated {parts : List (List Char)} (each : ∀ part ∈ parts, ∀ c ∈ part, 32 ≤ c.toNat) :
    ∀ c ∈ commaSeparated parts, 32 ≤ c.toNat := by
  induction parts with
  | nil => exact nofun
  | cons part parts ih =>
    obtain ⟨here, others⟩ := List.forall_mem_cons.mp each
    cases parts with
    | nil => exact here
    | cons next parts =>
      exact List.forall_mem_append.mpr ⟨here, List.forall_mem_cons.mpr ⟨by decide, ih others⟩⟩

theorem printed_quotedChars (s : String) : ∀ c ∈ quotedChars s, 32 ≤ c.toNat := by
  refine List.forall_mem_cons.mpr ⟨by decide, List.forall_mem_append.mpr ⟨fun c member => ?_, by simp⟩⟩
  obtain ⟨d, _, escaped⟩ := List.mem_flatMap.mp member
  exact printed_escapedChar d c escaped

theorem printed_of_number? {text : List Char} {json : Json} (reads : number? text = some json) :
    ∀ c ∈ text, 32 ≤ c.toNat :=
  fun c member => printed_of_isNumeric ((isNumber_of_number? reads).isNumeric c member)

mutual

theorem printed_chars : (json : Json) → json.isFinite → ∀ c ∈ json.chars, 32 ≤ c.toNat
  | .null, _ => by simp [chars]
  | .bool true, _ => by simp [chars]
  | .bool false, _ => by simp [chars]
  | .integer i, _ => printed_of_number? (number?_integer i)
  | .float _, finite => printed_of_number? (number?_text finite)
  | .text s, _ => printed_quotedChars s
  | .array items, finite => by
    rw [chars]
    exact List.forall_mem_cons.mpr ⟨by decide, List.forall_mem_append.mpr
      ⟨printed_commaSeparated (printed_itemChars items finite), by simp⟩⟩
  | .object members, finite => by
    rw [chars]
    exact List.forall_mem_cons.mpr ⟨by decide, List.forall_mem_append.mpr
      ⟨printed_commaSeparated (printed_memberChars members finite), by simp⟩⟩

theorem printed_itemChars : (items : List Json) → areFinite items → ∀ part ∈ itemChars items, ∀ c ∈ part, 32 ≤ c.toNat
  | [], _ => nofun
  | item :: items, finite => by
    rw [areFinite, Bool.and_eq_true] at finite
    exact List.forall_mem_cons.mpr ⟨printed_chars item finite.1, printed_itemChars items finite.2⟩

theorem printed_memberChars : (members : List (String × Json)) → valuesFinite members →
    ∀ part ∈ memberChars members, ∀ c ∈ part, 32 ≤ c.toNat
  | [], _ => nofun
  | (name, value) :: members, finite => by
    rw [valuesFinite, Bool.and_eq_true] at finite
    exact List.forall_mem_cons.mpr ⟨List.forall_mem_append.mpr ⟨printed_quotedChars name,
      List.forall_mem_cons.mpr ⟨by decide, printed_chars value finite.1⟩⟩, printed_memberChars members finite.2⟩

end

end Json

theorem splitLines_append {bytes : List UInt8} (oneLine : 10 ∉ bytes) (lines : List (List UInt8)) (line rest : List UInt8) :
    splitLines lines line (bytes ++ rest) = splitLines lines (bytes.reverse ++ line) rest := by
  induction bytes generalizing line with
  | nil => rfl
  | cons byte bytes ih =>
    rw [List.mem_cons, not_or] at oneLine
    rw [List.cons_append, splitLines, if_neg (Ne.symm oneLine.1), ih oneLine.2]
    simp

theorem ofBytes_line {bytes ending : List UInt8} (oneLine : 10 ∉ bytes) (nonempty : bytes ≠ [])
    (ended : ending ∈ [[], [10]]) : JsonLines.ofBytes (bytes ++ ending) = ⟨[bytes], 0⟩ := by
  have some : bytes.reverse.isEmpty = false := by simpa using nonempty
  rw [JsonLines.ofBytes, splitLines_append oneLine, List.append_nil]
  simp only [List.mem_cons, List.not_mem_nil, or_false] at ended
  rcases ended with rfl | rfl
  · simp [splitLines, some]
  · simp [splitLines]

theorem Text.trimmed_of_ends {first last : Char} {middle : List Char} (visible : isBlank first = false)
    (visible' : isBlank last = false) : trimmed (first :: (middle ++ [last])) = first :: (middle ++ [last]) := by
  simp [trimmed, visible, visible']

namespace Record

def line (record : Record) : List UInt8 :=
  ("\x7b\"retract\":" ++ toString record.kind.isRetraction ++ ",\"fields\":").toUTF8.toList ++ record.jsonBytes ++
    "\x7d".toUTF8.toList

def lineJson (record : Record) : Json :=
  .object [("retract", .bool record.kind.isRetraction), ("fields", record.toJson)]

theorem chars_retract_fields (retraction fields : Json) :
    (Json.object [("retract", retraction), ("fields", fields)]).chars =
      "\x7b\"retract\":".toList ++ retraction.chars ++ ",\"fields\":".toList ++ fields.chars ++ "\x7d".toList := by
  rw [Json.chars, Json.memberChars, Json.memberChars, Json.memberChars]
  simp [Json.commaSeparated, Json.quotedChars, Json.escapedChar]

theorem line_eq (record : Record) : record.line = Text.bytes record.lineJson.chars := by
  have rendered : record.toJson.render.toList = record.toJson.chars := String.toList_ofList
  have retraction : (toString record.kind.isRetraction).toList = (Json.bool record.kind.isRetraction).chars := by
    cases record.kind <;> rfl
  rw [line, jsonBytes, Text.toList_toUTF8, Text.toList_toUTF8, Text.toList_toUTF8, rendered, ← Text.bytes_append,
    ← Text.bytes_append, String.toList_append, String.toList_append, retraction, lineJson, chars_retract_fields]

theorem isFinite_lineJson (record : Record) : record.lineJson.isFinite := by
  simp [lineJson, Json.isFinite, Json.valuesFinite, isFinite_toJson]

theorem line_oneLine (record : Record) : 10 ∉ record.line := by
  intro member
  rw [line_eq] at member
  have printed := Json.printed_chars _ record.isFinite_lineJson _ (Text.lineFeed_mem_of_mem_bytes member)
  exact absurd printed (by decide)

theorem depth_lineJson {record : Record} (shallow : ∀ value ∈ record.values, value.nesting ≤ 125) :
    record.lineJson.depth ≤ Json.Reader.maxDepth := by
  have columns : Json.depthOfValues (members record.sortedColumns) ≤ 125 :=
    depthOfValues_members fun column member =>
      shallow _ (List.mem_map_of_mem (ByName.mem_of_mem_sorted member))
  simp only [lineJson, toJson_eq, Json.depth, Json.depthOfValues, Json.Reader.maxDepth]
  omega

theorem decodeLine_line {record : Record} (number : Nat) (plain : ∀ value ∈ record.values, value.isPlain)
    (shallow : ∀ value ∈ record.values, value.nesting ≤ 125) :
    decodeLine number record.lineJson.chars = .ok { columns := record.sortedColumns, kind := record.kind } := by
  have parts : lineParts? record.lineJson =
      some (record.kind.isRetraction, members record.sortedColumns) := by
    rw [lineJson, toJson_eq]
    rfl
  have fields : fieldValues number (ByName.sorted (members record.sortedColumns)) = .ok record.sortedColumns := by
    rw [sorted_members, sortedColumns, ByName.sorted_of_ascending (ByName.ascending_sorted _)]
    exact fieldValues_members number fun column member =>
      plain _ (List.mem_map_of_mem (ByName.mem_of_mem_sorted member))
  rw [decodeLine, Json.ofChars?_chars record.isFinite_lineJson (depth_lineJson shallow), Option.bind_some, parts]
  dsimp only
  rw [fields]
  cases record.kind <;> rfl

theorem trimmed_line (record : Record) : Text.trimmed record.lineJson.chars = record.lineJson.chars := by
  rw [lineJson, Json.chars]
  exact Text.trimmed_of_ends (by decide) (by decide)

end Record

-- A line that holds a record as it was written gives that record and then the end, whether it ends in a line feed or not.
-- The columns have their names in the order of their bytes, each once, with the last value the record has under it.
theorem JsonLines.reads_line_back (record : Record) (plain : ∀ value ∈ record.values, value.isPlain)
    (shallow : ∀ value ∈ record.values, value.nesting ≤ 125) (ending : List UInt8) (ended : ending ∈ [[], [10]]) :
    ∃ read after, (ofBytes (record.line ++ ending)).pull = (.ok (some read), after) ∧ after.pull = (.ok none, after) ∧
      read.kind = record.kind ∧
      (read.names.map fun name => name.toUTF8.toList).Pairwise (· < ·) ∧
      ∀ name, read.value? name = record.columns.reverse.lookup name := by
  refine ⟨{ columns := record.sortedColumns, kind := record.kind }, ⟨[], 1⟩, ?_, rfl, rfl, ?_, ?_⟩
  · have some : record.lineJson.chars.isEmpty = false := by
      rw [Record.lineJson, Json.chars]
      rfl
    have nonempty : record.line ≠ [] := by
      rw [Record.line_eq, Record.lineJson, Json.chars]
      exact List.cons_ne_nil _ _
    rw [ofBytes_line record.line_oneLine nonempty ended, pull, pullFrom, Record.line_eq, Text.fromUTF8?_bytes]
    simp only [String.toList_ofList, record.trimmed_line, some, Bool.false_eq_true, if_false,
      Record.decodeLine_line _ plain shallow]
    rfl
  · refine List.pairwise_map.mpr (List.pairwise_map.mpr ((ByName.ascending_sorted record.columns).imp ?_))
    intro column later less
    rw [Text.toList_toUTF8, Text.toList_toUTF8]
    exact Text.bytes_lt less
  · intro name
    exact ByName.lookup_sorted record.columns name

-- Text that has to be escaped, numbers that look alike, a name that is given twice, and a retraction.
theorem JsonLines.reads_line_back_escaped :
    let half : Binary64 := ⟨0x3fe0000000000000⟩
    let record : Record := { kind := .retract, columns :=
      [("é\n", .text "\"\\"), ("b", .int 1), ("a", .float half), ("b", .tuple [.float ⟨0x3ff0000000000000⟩, .tuple [.null]])] }
    (∀ value ∈ record.values, value.isPlain) ∧ (∀ value ∈ record.values, value.nesting ≤ 125) ∧
      ∃ read after, (ofBytes (record.line ++ [10])).pull = (.ok (some read), after) ∧ after.pull = (.ok none, after) ∧
        read.kind = record.kind ∧ (read.names.map fun name => name.toUTF8.toList).Pairwise (· < ·) ∧
        ∀ name, read.value? name = record.columns.reverse.lookup name := by
  intro half record
  have plain : ∀ value ∈ record.values, value.isPlain := by decide
  have shallow : ∀ value ∈ record.values, value.nesting ≤ 125 := by decide
  exact ⟨plain, shallow, reads_line_back record plain shallow [10] (by decide)⟩

end DeltaQuery
