import DeltaQuery.Json.Token

namespace DeltaQuery.Json

-- What is open, with what has been read of it so far, the last part first. Members keep the order of the text, also
-- those of one name.
inductive Frame
  | array (items : List Json)
  | object (members : List (String × Json))
  | member (members : List (String × Json)) (name : String)

inductive Awaited
  | value
  | itemOrEnd
  | name
  | nameOrEnd
  | colon (name : String)
  -- A value is complete; a comma or an end has to follow, or the text ends.
  | rest (value : Json)

structure Reader where
  frames : List Frame
  awaited : Awaited

namespace Reader

def start : Reader := ⟨[], .value⟩

def maxDepth : Nat := 127

def begin? (frames : List Frame) : Token → Option Reader
  | .scalar value => some ⟨frames, .rest value⟩
  | .openArray => if frames.length < maxDepth then some ⟨.array [] :: frames, .itemOrEnd⟩ else none
  | .openObject => if frames.length < maxDepth then some ⟨.object [] :: frames, .nameOrEnd⟩ else none
  | _ => none

def named? (frames : List Frame) : Token → Option Reader
  | .scalar (.text name) => some ⟨frames, .colon name⟩
  | _ => none

def continue? (value : Json) : List Frame → Token → Option Reader
  | .array items :: frames, .comma => some ⟨.array (value :: items) :: frames, .value⟩
  | .array items :: frames, .closeArray => some ⟨frames, .rest (.array (value :: items).reverse)⟩
  | .member members name :: frames, .comma => some ⟨.object ((name, value) :: members) :: frames, .name⟩
  | .member members name :: frames, .closeObject =>
    some ⟨frames, .rest (.object ((name, value) :: members).reverse)⟩
  | _, _ => none

def step? (reader : Reader) (token : Token) : Option Reader :=
  match reader.awaited, reader.frames, token with
  | .itemOrEnd, .array [] :: frames, .closeArray => some ⟨frames, .rest (.array [])⟩
  | .nameOrEnd, .object [] :: frames, .closeObject => some ⟨frames, .rest (.object [])⟩
  | .value, frames, token => begin? frames token
  | .itemOrEnd, frames, token => begin? frames token
  | .name, frames, token => named? frames token
  | .nameOrEnd, frames, token => named? frames token
  | .colon name, .object members :: frames, .colon => some ⟨.member members name :: frames, .value⟩
  | .colon _, _, _ => none
  | .rest value, frames, token => continue? value frames token

def result? : Reader → Option Json
  | ⟨[], .rest value⟩ => some value
  | _ => none

end Reader

def ofTokens? (tokens : List Token) : Option Json := do
  (← tokens.foldlM Reader.step? Reader.start).result?

def ofChars? (text : List Char) : Option Json := do ofTokens? (← tokens? text)

def parse? (text : String) : Option Json := ofChars? text.toList

end DeltaQuery.Json
