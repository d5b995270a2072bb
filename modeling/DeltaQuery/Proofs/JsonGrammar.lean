import DeltaQuery.Json.Token

namespace DeltaQuery.Json

structure IsDigits (digits : List Char) : Prop where
  all : ∀ c ∈ digits, c.isDigit
  nonempty : digits ≠ []

structure IsWhole (digits : List Char) : Prop extends IsDigits digits where
  leading : digits.head? = some '0' → digits.length = 1

inductive IsFraction : List Char → Prop
  | none : IsFraction []
  | some {digits : List Char} (isDigits : IsDigits digits) : IsFraction ('.' :: digits)

inductive IsExponent : List Char → Prop
  | none : IsExponent []
  | some {e : Char} {sign digits : List Char} (letter : e = 'e' ∨ e = 'E') (signed : sign ∈ [[], ['-'], ['+']])
      (isDigits : IsDigits digits) : IsExponent (e :: (sign ++ digits))

inductive IsNumber : List Char → Prop
  | number {minus whole fraction exponent : List Char} (signed : minus ∈ [[], ['-']]) (isWhole : IsWhole whole)
      (isFraction : IsFraction fraction) (isExponent : IsExponent exponent) :
      IsNumber (minus ++ (whole ++ (fraction ++ exponent)))

def isHexDigit (c : Char) : Bool := c.isDigit || ('a' ≤ c && c ≤ 'f') || ('A' ≤ c && c ≤ 'F')

inductive IsUnit : List Char → Prop
  | plain {c : Char} (printed : 32 ≤ c.toNat) (noQuote : c ≠ '"') (noEscape : c ≠ '\\') : IsUnit [c]
  | escape {c : Char} (known : c ∈ ['"', '\\', '/', 'b', 'f', 'n', 'r', 't']) : IsUnit ['\\', c]
  | hex {digits : List Char} (four : digits.length = 4) (all : ∀ c ∈ digits, isHexDigit c) :
      IsUnit ('\\' :: 'u' :: digits)

inductive IsString : List Char → Prop
  | quoted {units : List (List Char)} (all : ∀ part ∈ units, IsUnit part) : IsString ('"' :: (units.flatten ++ ['"']))

def IsBlank (text : List Char) : Prop := ∀ c ∈ text, isSpace c

-- Which texts are well-formed, whatever they stand for and however deep they go. There may be spaces around a text,
-- and around the items of an array and the names and values of an object.
inductive IsText : List Char → Prop
  | null : IsText "null".toList
  | true : IsText "true".toList
  | false : IsText "false".toList
  | number {text : List Char} (isNumber : IsNumber text) : IsText text
  | string {text : List Char} (isString : IsString text) : IsText text
  | emptyArray {blank : List Char} (isBlank : IsBlank blank) : IsText ('[' :: (blank ++ [']']))
  | array {items : List (List Char)} (nonempty : items ≠ []) (each : ∀ item ∈ items, IsText item) :
      IsText ('[' :: (commaSeparated items ++ [']']))
  | emptyObject {blank : List Char} (isBlank : IsBlank blank) : IsText ('\x7b' :: (blank ++ ['\x7d']))
  -- A name has its spaces with it.
  | object {members : List (List Char × List Char)} (nonempty : members ≠ [])
      (names : ∀ member ∈ members, ∃ before name after, IsBlank before ∧ IsString name ∧ IsBlank after ∧
        member.1 = before ++ name ++ after)
      (values : ∀ member ∈ members, IsText member.2) :
      IsText ('\x7b' :: (commaSeparated (members.map fun (name, value) => name ++ ':' :: value) ++ ['\x7d']))
  | spaced {before text after : List Char} (isBefore : IsBlank before) (isText : IsText text) (isAfter : IsBlank after) :
      IsText (before ++ text ++ after)

theorem takeWhile_isDigit {text : List Char} (nonempty : text.takeWhile Char.isDigit ≠ []) :
    IsDigits (text.takeWhile Char.isDigit) :=
  ⟨List.all_eq_true.mp List.all_takeWhile, nonempty⟩

theorem exists_isFraction {text digits rest : List Char} (reads : fractionDigits? text = some (digits, rest)) :
    ∃ fraction, IsFraction fraction ∧ text = fraction ++ rest := by
  unfold fractionDigits? at reads
  split at reads
  next text =>
    dsimp only at reads
    split at reads
    next => cases reads
    next nonempty =>
      cases reads
      refine ⟨_, .some (takeWhile_isDigit (by simpa using nonempty)), ?_⟩
      rw [List.cons_append, List.takeWhile_append_dropWhile]
  next =>
    cases reads
    exact ⟨[], .none, rfl⟩

theorem exists_exponentSign_eq (text : List Char) :
    ∃ sign ∈ [[], ['-'], ['+']], text = sign ++ (exponentSign text).2 := by
  unfold exponentSign
  split
  next => exact ⟨['-'], by simp, rfl⟩
  next => exact ⟨['+'], by simp, rfl⟩
  next => exact ⟨[], by simp, rfl⟩

theorem isExponent_of_exponent? {text : List Char} {exponent : Option Int} (reads : exponent? text = some exponent) :
    IsExponent text := by
  cases text with
  | nil => exact .none
  | cons e rest =>
    simp only [exponent?] at reads
    split at reads
    next letter =>
      split at reads
      next => cases reads
      next accepted =>
        simp only [not_or, Bool.not_eq_true, Bool.not_eq_false', List.isEmpty_eq_false_iff, List.all_eq_true] at accepted
        obtain ⟨nonempty, all⟩ := accepted
        obtain ⟨sign, signed, parts⟩ := exists_exponentSign_eq rest
        rw [parts]
        exact .some letter signed ⟨all, nonempty⟩
    next => cases reads

theorem unsigned?_eq_some {negative : Bool} {text : List Char} {json : Json} (reads : unsigned? negative text = some json) :
    ∃ whole fraction exponent, IsWhole whole ∧ IsFraction fraction ∧ IsExponent exponent ∧
      text = whole ++ (fraction ++ exponent) := by
  unfold unsigned? at reads
  dsimp only at reads
  split at reads
  next => cases reads
  next accepted =>
    rw [not_or, List.isEmpty_iff, not_and] at accepted
    obtain ⟨nonempty, leading⟩ := accepted
    have digits := takeWhile_isDigit nonempty
    obtain ⟨⟨fractionDigits, rest⟩, fractionRead, reads⟩ := Option.bind_eq_some_iff.mp reads
    obtain ⟨exponent, exponentRead, _⟩ := Option.bind_eq_some_iff.mp reads
    obtain ⟨fraction, isFraction, parts⟩ := exists_isFraction fractionRead
    refine ⟨_, fraction, rest, ⟨digits, fun zero => ?_⟩, isFraction, isExponent_of_exponent? exponentRead, ?_⟩
    · have alone := leading zero
      have some := List.length_pos_iff.mpr nonempty
      omega
    · rw [← parts, List.takeWhile_append_dropWhile]

theorem isNumber_of_number? {text : List Char} {json : Json} (reads : number? text = some json) : IsNumber text := by
  unfold number? at reads
  split at reads
  next rest =>
    obtain ⟨whole, fraction, exponent, isWhole, isFraction, isExponent, rfl⟩ := unsigned?_eq_some reads
    exact @IsNumber.number ['-'] _ _ _ (by simp) isWhole isFraction isExponent
  next =>
    obtain ⟨whole, fraction, exponent, isWhole, isFraction, isExponent, rfl⟩ := unsigned?_eq_some reads
    exact @IsNumber.number [] _ _ _ (by simp) isWhole isFraction isExponent

theorem isNumeric_of_isDigit {c : Char} (digit : c.isDigit) : isNumeric c := by simp [isNumeric, digit]

theorem IsFraction.isNumeric {text : List Char} (isFraction : IsFraction text) : ∀ c ∈ text, isNumeric c := by
  cases isFraction with
  | none => exact nofun
  | some isDigits =>
    exact List.forall_mem_cons.mpr ⟨rfl, fun c member => isNumeric_of_isDigit (isDigits.all c member)⟩

theorem IsExponent.isNumeric {text : List Char} (isExponent : IsExponent text) : ∀ c ∈ text, isNumeric c := by
  cases isExponent with
  | none => exact nofun
  | @some e sign digits letter signed isDigits =>
    refine List.forall_mem_cons.mpr ⟨?_, List.forall_mem_append.mpr ⟨?_, fun c member => ?_⟩⟩
    · rcases letter with rfl | rfl <;> rfl
    · simp only [List.mem_cons, List.not_mem_nil, or_false] at signed
      rcases signed with rfl | rfl | rfl <;> simp [Json.isNumeric]
    · exact isNumeric_of_isDigit (isDigits.all c member)

theorem IsNumber.isNumeric {text : List Char} (isNumber : IsNumber text) : ∀ c ∈ text, isNumeric c := by
  obtain @⟨minus, whole, fraction, exponent, signed, isWhole, isFraction, isExponent⟩ := isNumber
  refine List.forall_mem_append.mpr ⟨?_, List.forall_mem_append.mpr ⟨fun c member => ?_,
    List.forall_mem_append.mpr ⟨isFraction.isNumeric, isExponent.isNumeric⟩⟩⟩
  · simp only [List.mem_cons, List.not_mem_nil, or_false] at signed
    rcases signed with rfl | rfl <;> simp [Json.isNumeric]
  · exact isNumeric_of_isDigit (isWhole.all c member)

theorem IsNumber.exists_cons {text : List Char} (isNumber : IsNumber text) :
    ∃ first rest, text = first :: rest ∧ (first = '-' ∨ first.isDigit) := by
  obtain @⟨minus, whole, fraction, exponent, signed, isWhole, isFraction, isExponent⟩ := isNumber
  simp only [List.mem_cons, List.not_mem_nil, or_false] at signed
  rcases signed with rfl | rfl
  · obtain ⟨first, rest, rfl⟩ := List.exists_cons_of_ne_nil isWhole.nonempty
    exact ⟨first, _, rfl, .inr (isWhole.all first List.mem_cons_self)⟩
  · exact ⟨'-', _, rfl, .inl rfl⟩

end DeltaQuery.Json
