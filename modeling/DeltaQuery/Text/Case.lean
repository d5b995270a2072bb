import DeltaQuery.Text.Cased
import DeltaQuery.Text.CaseTable

namespace DeltaQuery.Text

def CaseRun.moves (run : CaseRun) (n : Nat) : Bool :=
  run.first ≤ n && n ≤ run.last && (n - run.first) % run.step == 0

def mapped (runs : List CaseRun) (expansions : List (Nat × List Nat)) (c : Char) : List Char :=
  match expansions.lookup c.toNat with
  | some several => several.map Char.ofNat
  | none =>
    match runs.find? (·.moves c.toNat) with
    | some run => [Char.ofNat (c.toNat + run.distance).toNat]
    | none => [c]

def upper (c : Char) : List Char := mapped upperRuns upperExpansions c
def lower (c : Char) : List Char := mapped lowerRuns lowerExpansions c

-- Whether the first character that is not case-ignorable is cased.
def continuesWord (text : List Char) : Bool :=
  ((text.dropWhile caseIgnorableRanges.contains).head?).any casedRanges.contains

-- The lower case of a capital sigma between two texts; the one before is read backwards.
def lowerSigma (before after : List Char) : Char :=
  if continuesWord before && !continuesWord after then 'ς' else 'σ'

def toLowerFrom (before : List Char) : List Char → List Char
  | [] => []
  | c :: after =>
    (if c = 'Σ' then [lowerSigma before after] else lower c) ++ toLowerFrom (c :: before) after

def toUpper (text : String) : String := String.ofList (text.toList.flatMap upper)
def toLower (text : String) : String := String.ofList (toLowerFrom [] text.toList)

def toLowerAscii (text : String) : String := String.ofList (text.toList.map Char.toLower)

end DeltaQuery.Text
