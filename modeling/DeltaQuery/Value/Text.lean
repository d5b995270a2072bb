import DeltaQuery.Binary64.Decimal
import DeltaQuery.Instant.Rfc3339
import DeltaQuery.Text.Quoted
import DeltaQuery.Value

namespace DeltaQuery

-- Numbers in messages are written out in full: no exponent, and no point after a whole number.
def Layout.display : Layout :=
  { tie := .up, positionalFrom := none, positionalUpTo := none, wholePoint := false, plusSign := false }

-- Numbers under inspection show that they are floats, and have an exponent below 1e-4 and from 1e16 on.
def Layout.inspect : Layout :=
  { tie := .up, positionalFrom := some (-4), positionalUpTo := some 15, wholePoint := true, plusSign := false }

def Binary64.display (x : Binary64) : String := x.text .display

namespace Value

def boolText (b : Bool) : String := if b then "true" else "false"

mutual

def display : Value → String
  | .null => "NULL"
  | .bool b => boolText b
  | .int i => toString i.toInt
  | .float x => x.display
  | .text s => "'" ++ s ++ "'"
  | .time t => t.toRfc3339 .offset
  | .tuple items => "(" ++ ", ".intercalate (displays items) ++ ")"

def displays : List Value → List String
  | [] => []
  | item :: items => display item :: displays items

end

mutual

def inspect : Value → String
  | .null => "Null"
  | .bool b => "Bool(" ++ boolText b ++ ")"
  | .int i => "Int(" ++ toString i.toInt ++ ")"
  | .float x => "Float(" ++ x.text .inspect ++ ")"
  | .text s => "String(" ++ Text.quoted s ++ ")"
  | .time t => "Time(" ++ t.toRfc3339 .letter ++ ")"
  | .tuple items => "Tuple([" ++ ", ".intercalate (inspects items) ++ "])"

def inspects : List Value → List String
  | [] => []
  | item :: items => inspect item :: inspects items

end

def inspectAll (values : List Value) : String := "[" ++ ", ".intercalate (inspects values) ++ "]"

end Value

end DeltaQuery
