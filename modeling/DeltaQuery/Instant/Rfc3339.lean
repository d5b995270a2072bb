import DeltaQuery.Instant
import DeltaQuery.Instant.Calendar

namespace DeltaQuery.Instant

-- The two ways to write that a time is in UTC.
inductive Zone
  | letter
  | offset

def Zone.text : Zone → List Char
  | .letter => ['Z']
  | .offset => "+00:00".toList

def padded (width n : Nat) : List Char :=
  let digits := Nat.toDigits 10 n
  List.replicate (width - digits.length) '0' ++ digits

def yearText (year : Int) : List Char :=
  if 0 ≤ year ∧ year ≤ 9999 then padded 4 year.toNat
  else (if year < 0 then '-' else '+') :: padded 4 year.natAbs

def fractionText (nanos : Nat) : List Char :=
  if nanos = 0 then []
  else if nanos % 10 ^ 6 = 0 then '.' :: padded 3 (nanos / 10 ^ 6)
  else if nanos % 10 ^ 3 = 0 then '.' :: padded 6 (nanos / 10 ^ 3)
  else '.' :: padded 9 nanos

def secondsPerDay : Int := 86400

def chars (zone : Zone) (t : Instant) : List Char :=
  let date := Calendar.dateOf (t.seconds / secondsPerDay)
  let second := (t.seconds % secondsPerDay).toNat
  let leap := t.nanos / 10 ^ 9
  yearText date.year ++ '-' :: padded 2 date.month ++ '-' :: padded 2 date.day ++
    'T' :: padded 2 (second / 3600) ++ ':' :: padded 2 (second / 60 % 60) ++
    ':' :: padded 2 (second % 60 + leap) ++ fractionText (t.nanos % 10 ^ 9) ++ zone.text

def toRfc3339 (zone : Zone) (t : Instant) : String := String.ofList (t.chars zone)

def digits? : (count : Nat) → (value : Nat) → List Char → Option (Nat × List Char)
  | 0, value, rest => some (value, rest)
  | count + 1, value, c :: rest =>
    if c.isDigit then digits? count (10 * value + (c.toNat - '0'.toNat)) rest else none
  | _ + 1, _, [] => none

def oneOf? (allowed : List Char) : List Char → Option (List Char)
  | c :: rest => if c ∈ allowed then some rest else none
  | [] => none

-- The nanoseconds of a fraction, if there is one; nine digits count.
def fraction? : List Char → Option (Nat × List Char)
  | '.' :: rest =>
    let digits := rest.takeWhile Char.isDigit
    if digits.isEmpty then none
    else
      let nine := (digits ++ List.replicate 9 '0').take 9
      (digits? 9 0 nine).map fun (nanos, _) => (nanos, rest.dropWhile Char.isDigit)
  | rest => some (0, rest)

def offset? : List Char → Option (Int × List Char)
  | 'Z' :: rest => some (0, rest)
  | 'z' :: rest => some (0, rest)
  | sign :: rest => do
    let ahead ← if sign = '+' then some true else if sign = '-' ∨ sign = '−' then some false else none
    let (hours, rest) ← digits? 2 0 rest
    let rest ← oneOf? [':'] rest
    let (minutes, rest) ← digits? 2 0 rest
    if hours < 24 ∧ minutes < 60 then
      let seconds : Int := hours * 3600 + minutes * 60
      some (if ahead then seconds else -seconds, rest)
    else none
  | [] => none

def ofChars? (text : List Char) : Option Instant := do
  let (year, rest) ← digits? 4 0 text
  let rest ← oneOf? ['-'] rest
  let (month, rest) ← digits? 2 0 rest
  let rest ← oneOf? ['-'] rest
  let (day, rest) ← digits? 2 0 rest
  let rest ← oneOf? ['T', 't', ' '] rest
  let (hour, rest) ← digits? 2 0 rest
  let rest ← oneOf? [':'] rest
  let (minute, rest) ← digits? 2 0 rest
  let rest ← oneOf? [':'] rest
  let (second, rest) ← digits? 2 0 rest
  let (nanos, rest) ← fraction? rest
  let (offset, rest) ← offset? rest
  let date : Date := ⟨year, month, day⟩
  if rest.isEmpty ∧ Calendar.isDate date ∧ hour < 24 ∧ minute < 60 ∧ second ≤ 60 then
    -- Second 60 is the leap second after second 59.
    let leap := second / 60
    let seconds : Int := Calendar.dayOf date * secondsPerDay + hour * 3600 + minute * 60 + (second - leap : Nat)
    Instant.ofParts? (seconds - offset) (nanos + leap * 10 ^ 9)
  else none

def ofRfc3339? (text : String) : Option Instant := ofChars? text.toList

end DeltaQuery.Instant
