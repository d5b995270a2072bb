import DeltaQuery.Proofs.DecimalText
import DeltaQuery.Proofs.JsonGrammar

namespace DeltaQuery

open Binary64

namespace Json

theorem takeWhile_append_stop {α : Type} {p : α → Bool} {taken rest : List α} (all : ∀ a ∈ taken, p a)
    (stops : ∀ a ∈ rest.head?, p a = false) :
    (taken ++ rest).takeWhile p = taken ∧ (taken ++ rest).dropWhile p = rest := by
  have none : rest.takeWhile p = [] ∧ rest.dropWhile p = rest := by
    cases rest with
    | nil => exact ⟨rfl, rfl⟩
    | cons first rest => simp [stops first rfl]
  rw [List.takeWhile_append_of_pos all, List.dropWhile_append_of_pos all, none.1, none.2, List.append_nil]
  exact ⟨rfl, rfl⟩

theorem isWhole_zero : IsWhole ['0'] := ⟨⟨by simp, by simp⟩, fun _ => rfl⟩

theorem IsWhole.of_leading {digits : List Char} (all : ∀ c ∈ digits, c.isDigit) (nonempty : digits ≠ [])
    (leading : digits.head? ≠ some '0') : IsWhole digits :=
  ⟨⟨all, nonempty⟩, fun zero => absurd zero leading⟩

theorem IsWhole.accepted {digits : List Char} (isWhole : IsWhole digits) :
    ¬(digits.isEmpty ∨ digits.head? = some '0' ∧ 1 < digits.length) := by
  rintro (none | ⟨zero, more⟩)
  · exact isWhole.nonempty (List.isEmpty_iff.mp none)
  · have alone := isWhole.leading zero
    omega

section

variable {negative : Bool} {whole fraction rest tail : List Char} {exponent : Option Int}

theorem unsigned?_append (isWhole : IsWhole whole) (stops : ∀ c ∈ rest.head?, c.isDigit = false)
    (point : fractionDigits? rest = some (fraction, tail)) (last : exponent? tail = some exponent)
    (pointed : fraction ≠ [] ∨ exponent.isSome)
    (finite : decimalMagnitude (digitsValue (whole ++ fraction)) (exponent.getD 0 - fraction.length) < infinityMagnitude) :
    unsigned? negative (whole ++ rest) = some (.float (ofMagnitude negative
      (decimalMagnitude (digitsValue (whole ++ fraction)) (exponent.getD 0 - fraction.length)))) := by
  obtain ⟨taken, dropped⟩ := takeWhile_append_stop isWhole.all stops
  have notWhole : (fraction.isEmpty && exponent.isNone) = false := by
    rcases pointed with fractional | scaled
    · simp [fractional]
    · simp [Option.isNone_eq_false_iff.mpr scaled]
  have isFinite : (nearestFloat negative (digitsValue (whole ++ fraction)) (exponent.getD 0 - fraction.length)).isFinite := by
    rw [nearestFloat_eq, Binary64.isFinite, magnitude_ofDecimal]
    exact decide_eq_true finite
  simp only [unsigned?, taken, dropped, if_neg isWhole.accepted, point, last, notWhole, Option.bind_eq_bind, Option.bind_some,
    Bool.false_and, Bool.false_eq_true, if_false, isFinite, if_true]
  rw [nearestFloat_eq, ofDecimal_eq_ofMagnitude]

end

variable {decimal : Decimal} {x : Binary64}

theorem isDigit_zeros (count : Nat) : ∀ c ∈ List.replicate count '0', c.isDigit := by
  intro c member
  rw [List.eq_of_mem_replicate member]
  rfl

structure Pointed (text : List Char) (x : Binary64) (whole fraction : List Char) : Prop where
  shape : text = whole ++ '.' :: fraction
  isWhole : IsWhole whole
  digits : ∀ c ∈ fraction, c.isDigit
  nonempty : fraction ≠ []
  magnitude : decimalMagnitude (digitsValue (whole ++ fraction)) (-fraction.length) = x.magnitude

-- The point between two digits.
theorem pointed_of_lt_length (spells : Spells decimal x) (above : 0 < decimal.point)
    (beyond : decimal.point < decimal.digits.length) :
    Pointed (Layout.json.positional decimal) x (decimal.digits.take decimal.point.toNat)
      (decimal.digits.drop decimal.point.toNat) := by
  have left : decimal.digits.take decimal.point.toNat ≠ [] := by
    refine List.ne_nil_of_length_pos ?_
    rw [List.length_take]
    omega
  have right : decimal.digits.drop decimal.point.toNat ≠ [] := by
    refine List.ne_nil_of_length_pos ?_
    rw [List.length_drop]
    omega
  refine ⟨?_, .of_leading (fun c member => spells.digits c (List.mem_of_mem_take member)) left ?_,
    fun c member => spells.digits c (List.mem_of_mem_drop member), right, ?_⟩
  · have unpadded : (decimal.point - (decimal.digits.take decimal.point.toNat).length).toNat = 0 := by
      rw [List.length_take]
      omega
    have unspaced : (-decimal.point).toNat = 0 := by omega
    simp only [Layout.positional, Layout.zeros, unpadded, unspaced, List.replicate_zero, List.append_nil, List.nil_append,
      List.isEmpty_eq_false_iff.mpr left, List.isEmpty_eq_false_iff.mpr right, Bool.false_eq_true, if_false]
  · rw [List.head?_take, if_neg (by omega)]
    exact spells.leading
  · have exponent : -((decimal.digits.drop decimal.point.toNat).length : Int) =
        decimal.point - decimal.digits.length := by
      rw [List.length_drop]
      omega
    rw [List.take_append_drop, exponent, spells.magnitude]

-- All digits in front of the point, with zeros up to it.
theorem pointed_of_length_le (spells : Spells decimal x) (above : 0 < decimal.point)
    (within : decimal.digits.length ≤ decimal.point) :
    Pointed (Layout.json.positional decimal) x
      (decimal.digits ++ List.replicate (decimal.point.toNat - decimal.digits.length) '0') ['0'] := by
  have padding : (decimal.point - decimal.digits.length).toNat = decimal.point.toNat - decimal.digits.length := by omega
  have all : decimal.digits.length ≤ decimal.point.toNat := by omega
  have length : (decimal.digits ++ List.replicate (decimal.point.toNat - decimal.digits.length) '0').length =
      decimal.point.toNat := by
    rw [List.length_append, List.length_replicate]
    omega
  have nonempty : decimal.digits ++ List.replicate (decimal.point.toNat - decimal.digits.length) '0' ≠ [] :=
    List.ne_nil_of_length_pos (by omega)
  refine ⟨?_, ⟨⟨List.forall_mem_append.mpr ⟨spells.digits, isDigit_zeros _⟩, nonempty⟩, fun zero => ?_⟩,
    isDigit_zeros 1, by simp, ?_⟩
  · simp only [Layout.positional, Layout.zeros, Layout.json, List.take_of_length_le all, List.drop_of_length_le all,
      padding, List.isEmpty_nil, List.isEmpty_eq_false_iff.mpr nonempty, Bool.false_eq_true, if_false, if_true]
  · -- Only zero itself has no digits of its own.
    cases digits : decimal.digits with
    | nil =>
      rw [digits] at length
      rw [length, spells.point digits]
      rfl
    | cons first rest => exact absurd (by simpa [digits] using zero) spells.leading
  · rw [List.append_assoc, ← List.replicate_succ', digitsValue_append_zeros,
      @decimalMagnitude_mul_pow _ _ (decimal.point - decimal.digits.length), spells.magnitude]
    simp only [List.length_singleton]
    omega

-- All digits behind the point, with zeros up to them.
theorem pointed_of_nonpos (spells : Spells decimal x) (below : decimal.point ≤ 0) :
    Pointed (Layout.json.positional decimal) x ['0']
      (List.replicate (-decimal.point).toNat '0' ++ decimal.digits) := by
  have nonempty : decimal.digits ≠ [] := by
    intro none
    have one := spells.point none
    omega
  refine ⟨?_, isWhole_zero, List.forall_mem_append.mpr ⟨isDigit_zeros _, spells.digits⟩, by simp [nonempty], ?_⟩
  · have none : decimal.point.toNat = 0 := by omega
    simp [Layout.positional, Layout.zeros, none, nonempty]
  · have exponent : -((List.replicate (-decimal.point).toNat '0' ++ decimal.digits).length : Int) =
        decimal.point - decimal.digits.length := by
      rw [List.length_append, List.length_replicate]
      omega
    rw [← List.append_assoc, List.singleton_append, ← List.replicate_succ, digitsValue_zeros_append, exponent,
      spells.magnitude]

theorem exists_pointed_positional (spells : Spells decimal x) :
    ∃ whole fraction, Pointed (Layout.json.positional decimal) x whole fraction := by
  rcases Int.lt_or_le 0 decimal.point with above | below
  · rcases Int.lt_or_le decimal.point decimal.digits.length with beyond | within
    · exact ⟨_, _, pointed_of_lt_length spells above beyond⟩
    · exact ⟨_, _, pointed_of_length_le spells above within⟩
  · exact ⟨_, _, pointed_of_nonpos spells below⟩

structure Scaled (text : List Char) (x : Binary64) (first : Char) (fraction : List Char) (exponent : Int) : Prop where
  shape : text = first :: (if fraction.isEmpty then [] else '.' :: fraction) ++
    'e' :: (if exponent < 0 then '-' else '+') :: Nat.toDigits 10 exponent.natAbs
  digits : ∀ c ∈ first :: fraction, c.isDigit
  magnitude : decimalMagnitude (digitsValue (first :: fraction)) (exponent - fraction.length) = x.magnitude

theorem exists_scaled_scientific (spells : Spells decimal x) (nonempty : decimal.digits ≠ []) :
    ∃ first fraction, Scaled (Layout.json.scientific decimal (decimal.point - 1)) x first fraction (decimal.point - 1) := by
  obtain ⟨first, fraction, digits⟩ := List.exists_cons_of_ne_nil nonempty
  refine ⟨first, fraction, ?_, ?_, ?_⟩
  · by_cases below : decimal.point - 1 < 0
    · simp [Layout.scientific, digits, below]
    · simp [Layout.scientific, Layout.json, digits, below]
  · rw [← digits]
    exact spells.digits
  · have exponent : decimal.point - 1 - fraction.length = decimal.point - decimal.digits.length := by
      rw [digits, List.length_cons]
      omega
    rw [← digits, exponent, spells.magnitude]

theorem fractionDigits?_append {fraction tail : List Char} (digits : ∀ c ∈ fraction, c.isDigit) (nonempty : fraction ≠ [])
    (stops : ∀ c ∈ tail.head?, c.isDigit = false) : fractionDigits? ('.' :: (fraction ++ tail)) = some (fraction, tail) := by
  obtain ⟨taken, dropped⟩ := takeWhile_append_stop digits stops
  simp [fractionDigits?, taken, dropped, nonempty]

theorem exponent?_signed (exponent : Int) :
    exponent? ('e' :: (if exponent < 0 then '-' else '+') :: Nat.toDigits 10 exponent.natAbs) = some (some exponent) := by
  generalize size : exponent.natAbs = count
  have all : (Nat.toDigits 10 count).all Char.isDigit = true :=
    List.all_eq_true.mpr fun c member => isDigit_of_mem_toDigits member
  by_cases below : exponent < 0
  · simp [exponent?, exponentSign, below, all, digitsValue_toDigits]
    omega
  · simp [exponent?, exponentSign, below, all, digitsValue_toDigits]
    omega

theorem Pointed.unsigned?_eq {text whole fraction : List Char} (pointed : Pointed text x whole fraction)
    (finite : x.magnitude < infinityMagnitude) (negative : Bool) :
    unsigned? negative text = some (.float (ofMagnitude negative x.magnitude)) := by
  have stops : ∀ c ∈ ([] : List Char).head?, c.isDigit = false := nofun
  have point := fractionDigits?_append pointed.digits pointed.nonempty stops
  have magnitude : decimalMagnitude (digitsValue (whole ++ fraction)) (Option.getD none 0 - fraction.length) =
      x.magnitude := by
    rw [Option.getD_none, Int.zero_sub, pointed.magnitude]
  rw [List.append_nil] at point
  rw [pointed.shape, unsigned?_append pointed.isWhole (by simp) point rfl (.inl pointed.nonempty) (magnitude ▸ finite),
    magnitude]

theorem Scaled.unsigned?_eq {text fraction : List Char} {first : Char} {exponent : Int}
    (scaled : Scaled text x first fraction exponent) (finite : x.magnitude < infinityMagnitude) (negative : Bool) :
    unsigned? negative text = some (.float (ofMagnitude negative x.magnitude)) := by
  obtain ⟨digit, digits⟩ := List.forall_mem_cons.mp scaled.digits
  have isWhole : IsWhole [first] := ⟨⟨by simp [digit], by simp⟩, fun _ => rfl⟩
  have point (tail : List Char) : fractionDigits? ((if fraction.isEmpty then [] else '.' :: fraction) ++ 'e' :: tail) =
      some (fraction, 'e' :: tail) := by
    cases fraction with
    | nil => rfl
    | cons c rest => exact fractionDigits?_append digits (List.cons_ne_nil _ _) (by simp)
  have stops (tail : List Char) :
      ∀ c ∈ ((if fraction.isEmpty then [] else '.' :: fraction) ++ 'e' :: tail).head?, c.isDigit = false := by
    cases fraction <;> simp
  have magnitude : decimalMagnitude (digitsValue ([first] ++ fraction)) ((some exponent).getD 0 - fraction.length) =
      x.magnitude := scaled.magnitude
  rw [scaled.shape, List.cons_append, ← List.singleton_append,
    unsigned?_append isWhole (stops _) (point _) (exponent?_signed exponent) (.inr rfl) (magnitude ▸ finite), magnitude]

-- A text that begins with a sign is no number without one.
theorem number?_of_unsigned? {text : List Char} {json : Json} (reads : unsigned? false text = some json) :
    number? text = some json := by
  unfold number?
  split
  next rest => simp [unsigned?] at reads
  next => exact reads

theorem unsigned?_shortest (tie : Tie) (finite : x.magnitude < infinityMagnitude) (negative : Bool) :
    unsigned? negative (Layout.json.unsigned (x.shortest tie)) = some (.float (ofMagnitude negative x.magnitude)) := by
  have spells := spells_shortest tie finite
  unfold Layout.unsigned
  dsimp only
  split
  next =>
    obtain ⟨whole, fraction, pointed⟩ := exists_pointed_positional spells
    exact pointed.unsigned?_eq finite negative
  next scientific =>
    have nonempty : (x.shortest tie).digits ≠ [] := by
      intro none
      rw [spells.point none] at scientific
      exact scientific rfl
    obtain ⟨first, fraction, scaled⟩ := exists_scaled_scientific spells nonempty
    exact scaled.unsigned?_eq finite negative

theorem number?_text (finite : x.isFinite) : number? (x.text .json).toList = some (.float x) := by
  have finite' : x.magnitude < infinityMagnitude := of_decide_eq_true finite
  have number : x.isNaN = false := decide_eq_false (by omega)
  have bounded : x.isInfinite = false := decide_eq_false (by omega)
  have same := ofMagnitude_negative_magnitude x
  simp only [Binary64.text, number, bounded, Bool.false_eq_true, if_false, String.toList_ofList]
  cases sign : x.negative with
  | true =>
    rw [sign] at same
    simpa [number?, same] using unsigned?_shortest Layout.json.tie finite' true
  | false =>
    rw [sign] at same
    simpa [same] using number?_of_unsigned? (unsigned?_shortest Layout.json.tie finite' false)

theorem isWhole_toDigits (n : Nat) : IsWhole (Nat.toDigits 10 n) := by
  refine ⟨⟨fun c member => isDigit_of_mem_toDigits member, Nat.toDigits_ne_nil⟩, fun zero => ?_⟩
  by_cases none : n = 0
  · rw [none]
    rfl
  · exact absurd zero (head?_toDigits none)

theorem unsigned?_toDigits {negative : Bool} {n : Nat} {i : Int64} (same : (if negative then -n else n : Int) = i.toInt)
    (noMinusZero : negative → n ≠ 0) : unsigned? negative (Nat.toDigits 10 n) = some (.integer i) := by
  have stops : ∀ c ∈ ([] : List Char).head?, c.isDigit = false := nofun
  obtain ⟨taken, dropped⟩ := takeWhile_append_stop (isWhole_toDigits n).all stops
  rw [List.append_nil] at taken dropped
  have whole : (negative && n == 0) = false := by
    cases negative with
    | false => rfl
    | true => simpa using noMinusZero rfl
  simp only [unsigned?, taken, dropped, if_neg (isWhole_toDigits n).accepted, fractionDigits?, exponent?, List.append_nil,
    digitsValue_toDigits, Option.bind_eq_bind, Option.bind_some, List.isEmpty_nil, Option.isNone_none, Bool.and_self,
    whole, Bool.not_false, if_true, same, integer?_toInt]

theorem number?_integer (i : Int64) : number? (toString i.toInt).toList = some (.integer i) := by
  rw [Int.toString_eq_repr, Int.repr_eq_if]
  split
  next whole =>
    rw [Nat.toList_repr]
    exact number?_of_unsigned? (unsigned?_toDigits (by simpa using Int.toNat_of_nonneg whole) nofun)
  next below =>
    rw [String.toList_append, Nat.toList_repr]
    exact @unsigned?_toDigits true _ _ (by simp; omega) (by omega)

end Json

end DeltaQuery
