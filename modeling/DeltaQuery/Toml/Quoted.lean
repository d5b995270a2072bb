import DeltaQuery.Text.Numeral

namespace DeltaQuery.Toml

structure Quotes where
  mark : Char
  severalLines : Bool

def Quotes.escapes (quotes : Quotes) : Bool := quotes.mark == '"'

-- The quotes that a text begins with, and what follows them: one line end after three quotes is left out.
def opening? : List Char → Option (Quotes × List Char)
  | [] => none
  | mark :: rest =>
    if mark = '"' ∨ mark = '\'' then
      match rest with
      | second :: third :: rest =>
        if second = mark ∧ third = mark then
          match rest with
          | '\n' :: rest => some (⟨mark, true⟩, rest)
          | '\r' :: '\n' :: rest => some (⟨mark, true⟩, rest)
          | rest => some (⟨mark, true⟩, rest)
        else some (⟨mark, false⟩, second :: third :: rest)
      | rest => some (⟨mark, false⟩, rest)
    else none

-- The end of a string. Up to two quotes before the last three belong to the string.
def closing? (quotes : Quotes) (text : List Char) : Option (List Char × List Char) :=
  let marks := (text.takeWhile (· == quotes.mark)).length
  if quotes.severalLines then
    if marks < 3 then none
    else
      let kept := min (marks - 3) 2
      some (List.replicate kept quotes.mark, text.drop (kept + 3))
  else if marks = 0 then none else some ([], text.drop 1)

def short? (c : Char) : Option Char :=
  match c with
  | 'b' => some '\x08'
  | 't' => some '\t'
  | 'n' => some '\n'
  | 'f' => some '\x0c'
  | 'r' => some '\r'
  | 'e' => some '\x1b'
  | '"' => some '"'
  | '\\' => some '\\'
  | _ => none

def digitCount? (c : Char) : Option Nat :=
  match c with
  | 'x' => some 2
  | 'u' => some 4
  | 'U' => some 8
  | _ => none

def escaped? : List Char → Option (Char × List Char)
  | [] => none
  | letter :: rest =>
    match short? letter, digitCount? letter with
    | some c, _ => some (c, rest)
    | none, none => none
    | none, some count =>
      match Text.numeral? 16 (rest.take count) with
      | none => none
      | some point =>
        if count ≤ rest.length ∧ point.isValidChar then some (Char.ofNat point, rest.drop count) else none

def isSpace (c : Char) : Bool := c == ' ' || c == '\t'

def afterLineEnd? : List Char → Option (List Char)
  | '\n' :: rest => some rest
  | '\r' :: '\n' :: rest => some rest
  | _ => none

def afterLines : List Char → List Char
  | '\r' :: '\n' :: rest => afterLines rest
  | c :: rest => if isSpace c ∨ c = '\n' then afterLines rest else c :: rest
  | [] => []

-- A backslash at the end of a line leaves out the line end and all space after it.
def joined? (text : List Char) : Option (List Char) :=
  (afterLineEnd? (text.dropWhile isSpace)).map afterLines

-- No control character but the tab stands in a string as it is, except for the line ends of a string on several
-- lines.
def isPlain (c : Char) : Bool := c == '\t' || (32 ≤ c.toNat && c.toNat != 127)

def contentWithin (quotes : Quotes) : (fuel : Nat) → List Char → Option (List Char × List Char)
  | 0, _ => none
  | fuel + 1, text =>
    match closing? quotes text, text with
    | some closed, _ => some closed
    | none, [] => none
    | none, c :: rest =>
      if quotes.escapes && c == '\\' then
        match if quotes.severalLines then joined? rest else none with
        | some rest => contentWithin quotes fuel rest
        | none => do
          let (c, rest) ← escaped? rest
          let (content, rest) ← contentWithin quotes fuel rest
          some (c :: content, rest)
      else if quotes.severalLines && (afterLineEnd? text).isSome || isPlain c then do
        let (content, rest) ← contentWithin quotes fuel rest
        some (c :: content, rest)
      else none

def content? (quotes : Quotes) (text : List Char) : Option (String × List Char) := do
  let (content, rest) ← contentWithin quotes (text.length + 1) text
  some (String.ofList content, rest)

end DeltaQuery.Toml
