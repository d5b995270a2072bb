import DeltaQuery.Function.Apply
import DeltaQuery.Proofs.Calendar
import DeltaQuery.Proofs.NumberText
import DeltaQuery.Value.Json

namespace DeltaQuery.Instant

theorem digits?_append {digits : List Char} (all : ∀ c ∈ digits, c.isDigit) (value : Nat) (rest : List Char) :
    digits? digits.length value (digits ++ rest) = some (Nat.ofDigitChars 10 digits value, rest) := by
  induction digits generalizing value with
  | nil => rfl
  | cons c digits ih =>
    rw [List.length_cons, List.cons_append, digits?, if_pos (all c List.mem_cons_self), Nat.ofDigitChars_cons]
    exact ih (fun c member => all c (List.mem_cons_of_mem _ member)) _

theorem isDigit_padded (width n : Nat) : ∀ c ∈ padded width n, c.isDigit := by
  intro c member
  rcases List.mem_append.mp member with zero | digit
  · exact Json.isDigit_zeros _ c zero
  · exact Binary64.isDigit_of_mem_toDigits digit

theorem length_padded {width n : Nat} (fits : n < 10 ^ width) (positive : 0 < width) : (padded width n).length = width := by
  have short : (Nat.toDigits 10 n).length ≤ width := (Nat.length_toDigits_le_iff (by decide) positive).mpr fits
  unfold padded
  dsimp only
  rw [List.length_append, List.length_replicate, Nat.sub_add_cancel short]

theorem value_padded (width n : Nat) : Nat.ofDigitChars 10 (padded width n) 0 = n :=
  (Binary64.digitsValue_zeros_append _ _).trans (Binary64.digitsValue_toDigits n)

theorem digits?_padded {width n : Nat} (fits : n < 10 ^ width) (positive : 0 < width) (rest : List Char) :
    digits? width 0 (padded width n ++ rest) = some (n, rest) := by
  have read := digits?_append (isDigit_padded width n) 0 rest
  rwa [length_padded fits positive, value_padded] at read

theorem digits?_bind {α : Type} {width n : Nat} (fits : n < 10 ^ width) (positive : 0 < width) (rest : List Char)
    (next : Nat × List Char → Option α) : (digits? width 0 (padded width n ++ rest) >>= next) = next (n, rest) := by
  rw [digits?_padded fits positive]
  rfl

theorem oneOf?_bind {α : Type} {allowed : List Char} {c : Char} (member : c ∈ allowed) (rest : List Char)
    (next : List Char → Option α) : (oneOf? allowed (c :: rest) >>= next) = next rest := by
  rw [show oneOf? allowed (c :: rest) = some rest from if_pos member]
  rfl

theorem fraction?_digits {digits rest : List Char} (all : ∀ c ∈ digits, c.isDigit) (nonempty : digits ≠ [])
    (short : digits.length ≤ 9) (stops : ∀ c ∈ rest.head?, c.isDigit = false) :
    fraction? ('.' :: digits ++ rest) = some (Nat.ofDigitChars 10 digits 0 * 10 ^ (9 - digits.length), rest) := by
  obtain ⟨taken, dropped⟩ := Json.takeWhile_append_stop all stops
  have nine : (digits ++ List.replicate 9 '0').take 9 = digits ++ List.replicate (9 - digits.length) '0' := by
    rw [List.take_append, List.take_of_length_le short, List.take_replicate, Nat.min_eq_left (Nat.sub_le _ _)]
  have filled : ∀ c ∈ digits ++ List.replicate (9 - digits.length) '0', c.isDigit :=
    List.forall_mem_append.mpr ⟨all, Json.isDigit_zeros _⟩
  have read := digits?_append filled 0 []
  rw [List.length_append, List.length_replicate, Nat.add_sub_cancel' short, List.append_nil] at read
  have value := Binary64.digitsValue_append_zeros digits (9 - digits.length)
  change Nat.ofDigitChars 10 _ 0 = Nat.ofDigitChars 10 digits 0 * _ at value
  simp only [fraction?, List.cons_append, taken, dropped, List.isEmpty_iff, nonempty, if_false, nine, read, value,
    Option.map_some]

theorem fraction?_padded {places nanos : Nat} (positive : 0 < places) (short : places ≤ 9) (fits : nanos < 10 ^ 9)
    (whole : nanos % 10 ^ (9 - places) = 0) (zone : Zone) :
    fraction? ('.' :: padded places (nanos / 10 ^ (9 - places)) ++ zone.text) = some (nanos, zone.text) := by
  have stops : ∀ c ∈ zone.text.head?, c.isDigit = false := by
    intro c first
    cases zone <;> cases first <;> rfl
  have fits : nanos / 10 ^ (9 - places) < 10 ^ places := by
    rw [Nat.div_lt_iff_lt_mul (Binary64.ten_pow_pos _), ← Nat.pow_add, Nat.add_sub_cancel' short]
    exact fits
  have length := length_padded fits positive
  have nonempty := List.ne_nil_of_length_pos (Nat.lt_of_lt_of_eq positive length.symm)
  have read := fraction?_digits (isDigit_padded places _) nonempty (Nat.le_trans (Nat.le_of_eq length) short) stops
  rwa [length, value_padded, Nat.div_mul_cancel (Nat.dvd_of_mod_eq_zero whole)] at read

theorem fraction?_fractionText {nanos : Nat} (fits : nanos < 10 ^ 9) (zone : Zone) :
    fraction? (fractionText nanos ++ zone.text) = some (nanos, zone.text) := by
  unfold fractionText
  split
  next none =>
    subst none
    cases zone <;> rfl
  next =>
    split
    next millis => exact fraction?_padded (show 0 < 3 by decide) (by decide) fits millis zone
    next =>
      split
      next micros => exact fraction?_padded (show 0 < 6 by decide) (by decide) fits micros zone
      next =>
        have nine := fraction?_padded (show 0 < 9 by decide) (Nat.le_refl 9) fits (Nat.mod_one nanos) zone
        rwa [Nat.sub_self, Nat.pow_zero, Nat.div_one] at nine

theorem ofChars?_written {year month day hour minute second nanos : Nat} (zone : Zone) (yearFits : year < 10 ^ 4)
    (monthFits : month < 10 ^ 2) (dayFits : day < 10 ^ 2) (hourFits : hour < 10 ^ 2) (minuteFits : minute < 10 ^ 2)
    (secondFits : second < 10 ^ 2) (nanosFit : nanos < 10 ^ 9) :
    ofChars? (padded 4 year ++ '-' :: padded 2 month ++ '-' :: padded 2 day ++ 'T' :: padded 2 hour ++
        ':' :: padded 2 minute ++ ':' :: padded 2 second ++ fractionText nanos ++ zone.text) =
      if Calendar.isDate ⟨year, month, day⟩ ∧ hour < 24 ∧ minute < 60 ∧ second ≤ 60 then
        ofParts? (Calendar.dayOf ⟨year, month, day⟩ * secondsPerDay + hour * 3600 + minute * 60 +
          (second - second / 60 : Nat)) (nanos + second / 60 * 10 ^ 9)
      else none := by
  have offset : offset? zone.text = some (0, []) := by cases zone <;> rfl
  have four : 0 < 4 := by decide
  have two : 0 < 2 := by decide
  have dash : '-' ∈ ['-'] := List.mem_singleton_self _
  have colon : ':' ∈ [':'] := List.mem_singleton_self _
  have letter : 'T' ∈ ['T', 't', ' '] := List.mem_cons_self
  simp only [List.append_assoc, List.cons_append]
  unfold ofChars?
  refine (digits?_bind yearFits four _ _).trans ((oneOf?_bind dash _ _).trans ?_)
  refine (digits?_bind monthFits two _ _).trans ((oneOf?_bind dash _ _).trans ?_)
  refine (digits?_bind dayFits two _ _).trans ((oneOf?_bind letter _ _).trans ?_)
  refine (digits?_bind hourFits two _ _).trans ((oneOf?_bind colon _ _).trans ?_)
  refine (digits?_bind minuteFits two _ _).trans ((oneOf?_bind colon _ _).trans ?_)
  refine (digits?_bind secondFits two _ _).trans ?_
  dsimp only
  rw [fraction?_fractionText nanosFit]
  dsimp only [Option.bind_eq_bind, Option.bind_some]
  simp only [offset, Option.bind_some, List.isEmpty_nil, true_and, Int.sub_zero]

def day (t : Instant) : Int := t.seconds / secondsPerDay

def secondOfDay (t : Instant) : Nat := (t.seconds % secondsPerDay).toNat

def year (t : Instant) : Int := (Calendar.dateOf t.day).year

theorem seconds_eq (t : Instant) : t.day * secondsPerDay + t.secondOfDay = t.seconds ∧ t.secondOfDay < 86400 := by
  unfold day secondOfDay secondsPerDay
  omega

theorem ofParts?_self (t : Instant) : ofParts? t.seconds t.nanos = some t := dif_pos t.valid

-- A leap second is written as second 60, and is one if it is.
theorem leap_second (t : Instant) :
    t.secondOfDay % 60 + t.nanos / 10 ^ 9 ≤ 60 ∧
      (t.secondOfDay % 60 + t.nanos / 10 ^ 9) / 60 = t.nanos / 10 ^ 9 := by
  have valid := t.valid
  have seconds := (seconds_eq t).1
  unfold secondsPerDay at seconds
  omega

theorem chars_eq (zone : Zone) (t : Instant) :
    t.chars zone = yearText (Calendar.dateOf t.day).year ++ '-' :: padded 2 (Calendar.dateOf t.day).month ++
      '-' :: padded 2 (Calendar.dateOf t.day).day ++ 'T' :: padded 2 (t.secondOfDay / 3600) ++
      ':' :: padded 2 (t.secondOfDay / 60 % 60) ++ ':' :: padded 2 (t.secondOfDay % 60 + t.nanos / 10 ^ 9) ++
      fractionText (t.nanos % 10 ^ 9) ++ zone.text := rfl

theorem ofChars?_chars (zone : Zone) {t : Instant} (early : 0 ≤ t.year) (late : t.year ≤ 9999) :
    ofChars? (t.chars zone) = some t := by
  have real := Calendar.isDate_dateOf t.day
  have back := Calendar.dayOf_dateOf t.day
  obtain ⟨monthFits, dayFits⟩ := Calendar.isDate_bounds real
  obtain ⟨seconds, inDay⟩ := seconds_eq t
  obtain ⟨sixty, leap⟩ := leap_second t
  unfold year at early late
  rw [chars_eq]
  generalize Calendar.dateOf t.day = date at *
  obtain ⟨year, month, day⟩ := date
  obtain ⟨year, rfl⟩ := Int.eq_ofNat_of_zero_le early
  dsimp only at *
  have yearWritten : yearText year = padded 4 year := if_pos ⟨early, late⟩
  rw [yearWritten, ofChars?_written zone (by omega) (by omega) (by omega) (by omega) (by omega) (by omega)
    (Nat.mod_lt _ (by decide)), leap, if_pos ⟨real, by omega, by omega, sixty⟩, back]
  have sameSeconds : t.day * secondsPerDay + (t.secondOfDay / 3600 : Nat) * 3600 + (t.secondOfDay / 60 % 60 : Nat) * 60 +
      (t.secondOfDay % 60 + t.nanos / 10 ^ 9 - t.nanos / 10 ^ 9 : Nat) = t.seconds := by
    rw [← seconds]
    omega
  have sameNanos : t.nanos % 10 ^ 9 + t.nanos / 10 ^ 9 * 10 ^ 9 = t.nanos := Nat.mod_add_div' ..
  rw [sameSeconds, sameNanos, ofParts?_self]

-- A sign is read as no year.
theorem ofChars?_chars_eq_none (zone : Zone) {t : Instant} (outside : ¬(0 ≤ t.year ∧ t.year ≤ 9999)) :
    ofChars? (t.chars zone) = none := by
  have signed : yearText t.year = (if t.year < 0 then '-' else '+') :: padded 4 t.year.natAbs := if_neg outside
  rw [chars_eq, show (Calendar.dateOf t.day).year = t.year from rfl, signed]
  split <;> rfl

theorem ofRfc3339?_toRfc3339 (zone : Zone) (t : Instant) :
    ofRfc3339? (t.toRfc3339 zone) = if 0 ≤ t.year ∧ t.year ≤ 9999 then some t else none := by
  unfold ofRfc3339? toRfc3339
  rw [String.toList_ofList]
  split
  next inside => exact ofChars?_chars zone inside.1 inside.2
  next outside => exact ofChars?_chars_eq_none zone outside

end DeltaQuery.Instant

namespace DeltaQuery

theorem Function.toTimestamp_text (text : String) :
    Function.toTimestamp.apply [.text text] =
      match Instant.ofRfc3339? text with
      | some t => .ok (.time t)
      | none => .error (.unreadableTimestamp text) := rfl

theorem Function.toTimestamp_toRfc3339 (zone : Instant.Zone) (t : Instant) :
    Function.toTimestamp.apply [.text (t.toRfc3339 zone)] =
      if 0 ≤ t.year ∧ t.year ≤ 9999 then .ok (.time t) else .error (.unreadableTimestamp (t.toRfc3339 zone)) := by
  rw [toTimestamp_text, Instant.ofRfc3339?_toRfc3339]
  by_cases inside : 0 ≤ t.year ∧ t.year ≤ 9999
  · rw [if_pos inside, if_pos inside]
  · rw [if_neg inside, if_neg inside]

-- The text that a time becomes as JSON and the one that it is displayed as both read as that very time, if its year is one
-- of 0 to 9999, and are refused if it is not. So a time that was read from a text, with any offset and any number of digits,
-- is read again from the text that it becomes.
theorem Value.times_read_back :
    (∀ t : Instant, ∃ written, (Value.time t).toJson = .text written ∧
      Function.toTimestamp.apply [.text written] =
        (if 0 ≤ t.year ∧ t.year ≤ 9999 then .ok (.time t) else .error (.unreadableTimestamp written)) ∧
      Function.toTimestamp.apply [.text (Value.time t).display] =
        (if 0 ≤ t.year ∧ t.year ≤ 9999 then .ok (.time t) else .error (.unreadableTimestamp (Value.time t).display))) ∧
    ∀ text read, Function.toTimestamp.apply [.text text] = .ok read → ∃ t, read = .time t ∧
      (0 ≤ t.year → t.year ≤ 9999 →
        ∃ written, read.toJson = .text written ∧ Function.toTimestamp.apply [.text written] = .ok read) := by
  refine ⟨?_, ?_⟩
  · intro t
    exact ⟨t.toRfc3339 .letter, rfl, Function.toTimestamp_toRfc3339 .letter t, Function.toTimestamp_toRfc3339 .offset t⟩
  · intro text read accepted
    rw [Function.toTimestamp_text] at accepted
    cases found : Instant.ofRfc3339? text with
    | none =>
      rw [found] at accepted
      cases accepted
    | some t =>
      rw [found] at accepted
      cases accepted
      refine ⟨t, rfl, fun early late => ⟨t.toRfc3339 .letter, rfl, ?_⟩⟩
      rw [Function.toTimestamp_toRfc3339, if_pos ⟨early, late⟩]

-- A leap second that the offset puts into the next year, with a tenth digit of its fraction.
theorem Value.times_read_back_leapSecond :
    let t : Instant := ⟨1483228799, 1123456789, by decide⟩
    Function.toTimestamp.apply [.text "2017-01-01T05:29:60.1234567899+05:30"] = .ok (.time t) ∧
      0 ≤ t.year ∧ t.year ≤ 9999 ∧ (Value.time t).toJson = .text "2016-12-31T23:59:60.123456789Z" ∧
      Function.toTimestamp.apply [.text "2016-12-31T23:59:60.123456789Z"] = .ok (.time t) := by
  intro t
  have read : Function.toTimestamp.apply [.text "2017-01-01T05:29:60.1234567899+05:30"] = .ok (.time t) := by
    decide +kernel
  have early : 0 ≤ t.year := by decide +kernel
  have late : t.year ≤ 9999 := by decide +kernel
  have json : (Value.time t).toJson = .text "2016-12-31T23:59:60.123456789Z" := by
    exact congrArg Json.text (by decide +kernel)
  obtain ⟨same, time, again⟩ := times_read_back.2 _ _ read
  cases time
  obtain ⟨written, becomes, readAgain⟩ := again early late
  cases json.symm.trans becomes
  exact ⟨read, early, late, json, readAgain⟩

end DeltaQuery
