import DeltaQuery.Toml.Quoted

namespace DeltaQuery.Toml

inductive Scalar
  | text (text : String)
  | integer (i : Int)
deriving DecidableEq

def ungrouped? : (afterDigit : Bool) → List Char → Option (List Char)
  | afterDigit, [] => if afterDigit then some [] else none
  | afterDigit, c :: rest =>
    if c = '_' then if afterDigit then ungrouped? false rest else none
    else (ungrouped? true rest).map (c :: ·)

def grouped? (base : Nat) (text : List Char) : Option Nat := do Text.numeral? base (← ungrouped? false text)

-- A decimal numeral does not begin with a zero that could be left out.
def decimal? (text : List Char) : Option Nat :=
  if text.head? = some '0' ∧ 1 < text.length then none else grouped? 10 text

def integer? : List Char → Option Int
  | '0' :: 'x' :: digits => (grouped? 16 digits).map fun n => (n : Int)
  | '0' :: 'o' :: digits => (grouped? 8 digits).map fun n => (n : Int)
  | '0' :: 'b' :: digits => (grouped? 2 digits).map fun n => (n : Int)
  | '+' :: digits => (decimal? digits).map fun n => (n : Int)
  | '-' :: digits => (decimal? digits).map fun n => -(n : Int)
  | digits => (decimal? digits).map fun n => (n : Int)

def isNumeric (c : Char) : Bool := c.isAlphanum || c == '_' || c == '+' || c == '-'

def isBareKey (c : Char) : Bool := c.isAlphanum || c == '_' || c == '-'

def key? (text : List Char) : Option (String × List Char) :=
  match opening? text with
  | some (quotes, rest) => if quotes.severalLines then none else content? quotes rest
  | none =>
    let key := text.takeWhile isBareKey
    if key.isEmpty then none else some (String.ofList key, text.dropWhile isBareKey)

def scalar? (text : List Char) : Option (Scalar × List Char) :=
  match opening? text with
  | some (quotes, rest) => (content? quotes rest).map fun (text, rest) => (.text text, rest)
  | none => (integer? (text.takeWhile isNumeric)).map fun i => (.integer i, text.dropWhile isNumeric)

def entry? (text : List Char) : Option ((String × Scalar) × List Char) := do
  let (key, rest) ← key? (text.dropWhile isSpace)
  match rest.dropWhile isSpace with
  | '=' :: rest =>
    let (value, rest) ← scalar? (rest.dropWhile isSpace)
    some ((key, value), rest)
  | _ => none

def afterComment : List Char → List Char
  | '#' :: rest => rest.dropWhile isPlain
  | text => text

def lineEnd? (text : List Char) : Option (List Char) :=
  match afterComment (text.dropWhile isSpace) with
  | [] => some []
  | rest => afterLineEnd? rest

def entriesWithin : (fuel : Nat) → List Char → Option (List (String × Scalar))
  | _, [] => some []
  | 0, _ :: _ => none
  | fuel + 1, text =>
    match lineEnd? text with
    | some rest => entriesWithin fuel rest
    | none => do
      let (entry, rest) ← entry? text
      let rest ← lineEnd? rest
      let entries ← entriesWithin fuel rest
      if (entries.lookup entry.1).isSome then none else some (entry :: entries)

def withoutMark : List Char → List Char
  | '\ufeff' :: rest => rest
  | text => text

-- Dates, floats, booleans, arrays, tables and dotted keys have no place in a document, and a key comes once.
def entries? (document : String) : Option (List (String × Scalar)) :=
  let text := withoutMark document.toList
  entriesWithin text.length text

end DeltaQuery.Toml
