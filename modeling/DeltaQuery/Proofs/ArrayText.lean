import DeltaQuery.Proofs.JsonBrackets
import DeltaQuery.Proofs.RecordLine

namespace DeltaQuery

namespace Json

theorem isUnit_escapedChar (c : Char) : IsUnit (escapedChar c) := by
  unfold escapedChar
  split
  case h_8 noQuote noEscape _ _ _ _ _ =>
    split
    next =>
      have hexadecimal (n : Nat) : isHexDigit (hexDigit n) := by
        have all : ∀ digit < 16, isHexDigit (Nat.digitChar digit) := by decide
        exact all (n % 16) (Nat.mod_lt n (by decide))
      have zero : isHexDigit '0' := rfl
      exact @IsUnit.hex ['0', '0', _, _] rfl (by simp [hexadecimal, zero])
    next printed => exact .plain (Nat.le_of_not_lt printed) noQuote noEscape
  all_goals exact .escape (by decide)

theorem isString_quotedChars (s : String) : IsString (quotedChars s) :=
  .quoted (List.forall_mem_map.mpr fun c _ => isUnit_escapedChar c)

theorem memberChars_eq (members : List (String × Json)) :
    memberChars members = (members.map fun (name, value) => (quotedChars name, value.chars)).map
      fun (name, value) => name ++ ':' :: value := by
  induction members with
  | nil => rfl
  | cons member members ih => rw [List.map_cons, List.map_cons, ← ih, memberChars]

mutual

theorem isText_chars : (json : Json) → json.isFinite → IsText json.chars
  | .null, _ => .null
  | .bool true, _ => .true
  | .bool false, _ => .false
  | .integer i, _ => .number (isNumber_of_number? (number?_integer i))
  | .float _, finite => .number (isNumber_of_number? (number?_text finite))
  | .text s, _ => .string (isString_quotedChars s)
  | .array [], _ => @IsText.emptyArray [] nofun
  | .array (item :: items), finite => .array nofun (isText_itemChars (item :: items) finite)
  | .object [], _ => @IsText.emptyObject [] nofun
  | .object (member :: members), finite => by
    rw [chars, memberChars_eq]
    refine .object nofun (List.forall_mem_map.mpr fun named _ => ?_) (isText_memberValues (member :: members) finite)
    exact ⟨[], quotedChars named.1, [], nofun, isString_quotedChars named.1, nofun, by simp⟩

theorem isText_itemChars : (items : List Json) → areFinite items → ∀ item ∈ itemChars items, IsText item
  | [], _ => nofun
  | item :: items, finite => by
    rw [areFinite, Bool.and_eq_true] at finite
    exact List.forall_mem_cons.mpr ⟨isText_chars item finite.1, isText_itemChars items finite.2⟩

theorem isText_memberValues : (members : List (String × Json)) → valuesFinite members →
    ∀ member ∈ members.map fun (name, value) => (quotedChars name, value.chars), IsText member.2
  | [], _ => nofun
  | (_, value) :: members, finite => by
    rw [valuesFinite, Bool.and_eq_true] at finite
    exact List.forall_mem_cons.mpr ⟨isText_chars value finite.1, isText_memberValues members finite.2⟩

end

def IsArrayOf (items : List (List Char)) (text : List Char) : Prop :=
  ∃ spaced : List (List Char), text = '[' :: (commaSeparated spaced ++ [']']) ∧
    List.Forall₂ (fun item padded => IsText item ∧ ∃ before after, IsBlank before ∧ IsBlank after ∧
      padded = before ++ item ++ after) items spaced

theorem IsArrayOf.isText {items : List (List Char)} {text : List Char} (isArray : IsArrayOf items text) : IsText text := by
  obtain ⟨spaced, rfl, each⟩ := isArray
  have texts : ∀ padded ∈ spaced, IsText padded := by
    induction each with
    | nil => exact nofun
    | cons here _ others =>
      obtain ⟨isText, before, after, isBefore, isAfter, rfl⟩ := here
      exact List.forall_mem_cons.mpr ⟨.spaced isBefore isText isAfter, others⟩
  cases spaced with
  | nil => exact @IsText.emptyArray [] nofun
  | cons first others => exact .array (List.cons_ne_nil _ _) texts

def IsUtf8Text (bytes : List UInt8) : Prop := ∃ text, IsText text ∧ bytes = Text.bytes text

theorem commaSeparated_concat (parts : List (List Char)) (part : List Char) :
    commaSeparated (parts ++ [part]) = if parts = [] then part else commaSeparated parts ++ ',' :: part := by
  induction parts with
  | nil => rfl
  | cons first parts ih =>
    cases parts with
    | nil => rfl
    | cons next parts =>
      rw [if_neg nofun] at ih ⊢
      rw [List.cons_append, List.cons_append, commaSeparated, ← List.cons_append, ih]
      · simp [commaSeparated]
      · simp

theorem commaSeparated_isPrefix (parts more : List (List Char)) :
    commaSeparated parts <+: commaSeparated (parts ++ more) := by
  induction more generalizing parts with
  | nil => simp
  | cons part more ih =>
    have longer : commaSeparated parts <+: commaSeparated (parts ++ [part]) := by
      rw [commaSeparated_concat]
      split
      next none =>
        rw [none]
        exact List.nil_prefix
      next => exact List.prefix_append _ _
    rw [← List.singleton_append, ← List.append_assoc]
    exact longer.trans (ih _)

end Json

def Record.entry (record : Record) : List Char := record.toJson.chars ++ ['\n']

namespace JsonArray

def opened (records : List Record) : List Char := '[' :: Json.commaSeparated (records.map Record.entry)

def framed (records : List Record) : List Char := opened records ++ [']']

theorem isBlank_lineFeed : Json.IsBlank ['\n'] := by
  intro c member
  rw [List.mem_singleton.mp member]
  rfl

theorem isArrayOf_framed (records : List Record) :
    Json.IsArrayOf (records.map fun record => record.toJson.chars) (framed records) := by
  refine ⟨_, rfl, ?_⟩
  rw [List.forall₂_map_left_iff, List.forall₂_map_right_iff, List.forall₂_same]
  intro record _
  exact ⟨Json.isText_chars _ record.isFinite_toJson, [], ['\n'], nofun, isBlank_lineFeed, rfl⟩

theorem balanced_entry (record : Record) : Json.Scan.Balanced record.entry :=
  (Json.Scan.balanced_text (Json.isText_chars _ record.isFinite_toJson)).append (Json.Scan.balanced_blank isBlank_lineFeed)

theorem opened_isPrefix (records more : List Record) : opened records <+: opened (records ++ more) := by
  rw [opened, opened, List.map_append]
  exact List.cons_prefix_cons.mpr ⟨rfl, Json.commaSeparated_isPrefix _ _⟩

theorem bytes_isPrefix {front text : List Char} (inside : front <+: text) : Text.bytes front <+: Text.bytes text := by
  obtain ⟨rest, rfl⟩ := inside
  rw [Text.bytes_append]
  exact List.prefix_append _ _

-- What has been taken of an array before its last bracket is no text.
theorem not_isUtf8Text_of_isPrefix {records : List Record} {bytes : List UInt8}
    (inside : bytes <+: Text.bytes (opened records)) : ¬Json.IsUtf8Text bytes := by
  rintro ⟨text, isText, rfl⟩
  refine Json.not_isText_of_isPrefix (List.forall_mem_map.mpr fun record _ => balanced_entry record)
    (Text.isPrefix_of_bytes inside) isText

end JsonArray

end DeltaQuery
