import DeltaQuery.ByName
import DeltaQuery.Failure
import DeltaQuery.Value.Json

namespace DeltaQuery

-- The lines of a text, without the newlines that end them; `line` and `lines` are what has been read of it, backwards.
def splitLines (lines : List (List UInt8)) (line : List UInt8) : List UInt8 → List (List UInt8)
  | [] => (if line.isEmpty then lines else line.reverse :: lines).reverse
  | byte :: bytes =>
    if byte = 10 then splitLines (line.reverse :: lines) [] bytes
    else splitLines lines (byte :: line) bytes

-- An object with the fields under "fields" and the flag under "retract", which an insert may leave out; or the two in an
-- array, the flag first. Nothing else may stand in it.
def lineParts? : Json → Option (Bool × List (String × Json))
  | .object [("fields", .object fields)] => some (false, fields)
  | .object [("fields", .object fields), ("retract", .bool retract)] => some (retract, fields)
  | .object [("retract", .bool retract), ("fields", .object fields)] => some (retract, fields)
  | .array [.bool retract, .object fields] => some (retract, fields)
  | _ => none

def fieldValues (line : Nat) : List (String × Json) → Except Cause (List (String × Value))
  | [] => .ok []
  | (name, json) :: fields =>
    match Value.ofJson? json with
    | none => .error (.objectField line name)
    | some value => (fieldValues line fields).map ((name, value) :: ·)

def decodeLine (line : Nat) (text : List Char) : Except Cause Record :=
  match (Json.ofChars? text).bind lineParts? with
  | none => .error (.malformedLine line)
  | some (retract, fields) =>
    (fieldValues line (ByName.sorted fields)).map fun columns =>
      { columns, kind := if retract then .retract else .insert }

structure JsonLines where
  pending : List (List UInt8)
  counted : Nat

namespace JsonLines

def ofBytes (bytes : List UInt8) : JsonLines := ⟨splitLines [] [] bytes, 0⟩

-- Lines of white space are skipped but counted; a line that is not UTF-8 fails and is not counted.
def pullFrom (counted : Nat) : List (List UInt8) → Except Cause (Option Record) × JsonLines
  | [] => (.ok none, ⟨[], counted⟩)
  | line :: lines =>
    match String.fromUTF8? ⟨line.toArray⟩ with
    | none => (.error (.undecodableLine (counted + 1)), ⟨lines, counted⟩)
    | some text =>
      let text := Text.trimmed text.toList
      if text.isEmpty then pullFrom (counted + 1) lines
      else ((decodeLine (counted + 1) text).map some, ⟨lines, counted + 1⟩)

def pull (reader : JsonLines) : Except Cause (Option Record) × JsonLines :=
  pullFrom reader.counted reader.pending

end JsonLines

end DeltaQuery
