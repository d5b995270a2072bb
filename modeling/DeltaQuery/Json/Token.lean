import DeltaQuery.Integer
import DeltaQuery.Json
import DeltaQuery.Text.Numeral

namespace DeltaQuery.Json

inductive Token
  | openArray
  | closeArray
  | openObject
  | closeObject
  | comma
  | colon
  | scalar (value : Json)

def digitsValue (digits : List Char) : Nat :=
  digits.foldl (fun value c => 10 * value + (c.toNat - '0'.toNat)) 0

-- The float nearest to a decimal. Exponents beyond all floats are not multiplied out.
def nearestFloat (negative : Bool) (coefficient : Nat) (exponent : Int) : Binary64 :=
  let point : Int := (Nat.toDigits 10 coefficient).length + exponent
  if coefficient = 0 ∨ point < -330 then .zero negative
  else if 310 < point then .infinity negative
  else .ofDecimal negative coefficient exponent

def fractionDigits? : List Char → Option (List Char × List Char)
  | '.' :: rest =>
    let digits := rest.takeWhile Char.isDigit
    if digits.isEmpty then none else some (digits, rest.dropWhile Char.isDigit)
  | rest => some ([], rest)

def exponentSign : List Char → Bool × List Char
  | '-' :: rest => (true, rest)
  | '+' :: rest => (false, rest)
  | rest => (false, rest)

def exponent? : List Char → Option (Option Int)
  | [] => some none
  | e :: rest =>
    if e = 'e' ∨ e = 'E' then
      let (negative, digits) := exponentSign rest
      if digits.isEmpty ∨ !digits.all Char.isDigit then none
      else
        let value : Int := digitsValue digits
        some (some (if negative then -value else value))
    else none

-- A number without fraction and exponent that fits in 64 bits is an integer. -0 and all others are floats, and one
-- too large to be finite is no token.
def unsigned? (negative : Bool) (text : List Char) : Option Json := do
  let whole := text.takeWhile Char.isDigit
  if whole.isEmpty ∨ (whole.head? = some '0' ∧ 1 < whole.length) then none
  else
    let (fraction, rest) ← fractionDigits? (text.dropWhile Char.isDigit)
    let exponent ← exponent? rest
    let coefficient := digitsValue (whole ++ fraction)
    let signed : Int := if negative then -coefficient else coefficient
    let isWhole := fraction.isEmpty && exponent.isNone && !(negative && coefficient == 0)
    match if isWhole then integer? signed else none with
    | some i => some (.integer i)
    | none =>
      let x := nearestFloat negative coefficient (exponent.getD 0 - fraction.length)
      if x.isFinite then some (.float x) else none

def number? : List Char → Option Json
  | '-' :: rest => unsigned? true rest
  | rest => unsigned? false rest

def hexUnit? (a b c d : Char) : Option Nat := Text.numeral? 16 [a, b, c, d]

def escapee? (c : Char) : Option Char :=
  match c with
  | '"' => some '"'
  | '\\' => some '\\'
  | '/' => some '/'
  | 'b' => some '\x08'
  | 'f' => some '\x0c'
  | 'n' => some '\n'
  | 'r' => some '\r'
  | 't' => some '\t'
  | _ => none

def isHighHalf (n : Nat) : Bool := 0xd800 ≤ n && n < 0xdc00
def isLowHalf (n : Nat) : Bool := 0xdc00 ≤ n && n < 0xe000

def withChar (c : Char) (rest : Option (List Char × List Char)) : Option (List Char × List Char) :=
  rest.map fun (read, rest) => (c :: read, rest)

-- The two halves of a character outside the basic plane can only be escaped as a pair.
def string? : List Char → Option (List Char × List Char)
  | [] => none
  | '"' :: rest => some ([], rest)
  | '\\' :: 'u' :: a :: b :: c :: d :: rest =>
    match hexUnit? a b c d with
    | none => none
    | some unit =>
      if isLowHalf unit then none
      else if isHighHalf unit then
        match rest with
        | '\\' :: 'u' :: a :: b :: c :: d :: rest =>
          match hexUnit? a b c d with
          | none => none
          | some low =>
            if isLowHalf low then
              withChar (Char.ofNat (0x10000 + (unit - 0xd800) * 0x400 + (low - 0xdc00))) (string? rest)
            else none
        | _ => none
      else withChar (Char.ofNat unit) (string? rest)
  | '\\' :: c :: rest =>
    match escapee? c with
    | some c => withChar c (string? rest)
    | none => none
  | c :: rest => if c.toNat < 32 then none else withChar c (string? rest)

def isSpace (c : Char) : Bool := c == ' ' || c == '\n' || c == '\t' || c == '\r'

def isNumeric (c : Char) : Bool := c.isDigit || c == '-' || c == '+' || c == '.' || c == 'e' || c == 'E'

def word? (word : List Char) : Option Json :=
  if word = "null".toList then some .null
  else if word = "true".toList then some (.bool true)
  else if word = "false".toList then some (.bool false)
  else none

def token? (c : Char) (rest : List Char) : Option (Token × List Char) :=
  if c = '[' then some (.openArray, rest)
  else if c = ']' then some (.closeArray, rest)
  else if c = '\x7b' then some (.openObject, rest)
  else if c = '\x7d' then some (.closeObject, rest)
  else if c = ',' then some (.comma, rest)
  else if c = ':' then some (.colon, rest)
  else if c = '"' then
    (string? rest).map fun (read, rest) => (.scalar (.text (String.ofList read)), rest)
  else if c = '-' ∨ c.isDigit then
    (number? (c :: rest.takeWhile isNumeric)).map fun number => (.scalar number, rest.dropWhile isNumeric)
  else
    (word? (c :: rest.takeWhile Char.isAlpha)).map fun word => (.scalar word, rest.dropWhile Char.isAlpha)

def tokensWithin : (fuel : Nat) → List Char → Option (List Token)
  | _, [] => some []
  | 0, _ :: _ => none
  | fuel + 1, c :: rest =>
    if isSpace c then tokensWithin fuel rest
    else do
      let (token, rest) ← token? c rest
      let tokens ← tokensWithin fuel rest
      some (token :: tokens)

def tokens? (text : List Char) : Option (List Token) := tokensWithin text.length text

end DeltaQuery.Json
