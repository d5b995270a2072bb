import DeltaQuery.Text.Case

namespace DeltaQuery

inductive Comparison
  | eq
  | notEq
  | lt
  | ltEq
  | gt
  | gtEq
deriving DecidableEq

inductive Arithmetic
  | add
  | sub
  | mul
  | div
deriving DecidableEq

inductive Function
  | compare (comparison : Comparison)
  | calculate (operation : Arithmetic)
  | not
  | lower
  | upper
  | coalesce
  | toTimestamp
deriving DecidableEq

def Comparison.name : Comparison → String
  | .eq => "="
  | .notEq => "!="
  | .lt => "<"
  | .ltEq => "<="
  | .gt => ">"
  | .gtEq => ">="

def Comparison.accepts : Comparison → Ordering → Bool
  | .eq, order => order == .eq
  | .notEq, order => order != .eq
  | .lt, order => order == .lt
  | .ltEq, order => order != .gt
  | .gt, order => order == .gt
  | .gtEq, order => order != .lt

def Arithmetic.name : Arithmetic → String
  | .add => "+"
  | .sub => "-"
  | .mul => "*"
  | .div => "/"

namespace Function

def name : Function → String
  | .compare comparison => comparison.name
  | .calculate operation => operation.name
  | .not => "not"
  | .lower => "lower"
  | .upper => "upper"
  | .coalesce => "coalesce"
  | .toTimestamp => "to_timestamp"

def spellings : List (String × Function) :=
  [("=", .compare .eq), ("==", .compare .eq), ("!=", .compare .notEq), ("<>", .compare .notEq),
   ("<", .compare .lt), ("<=", .compare .ltEq), (">", .compare .gt), (">=", .compare .gtEq),
   ("+", .calculate .add), ("-", .calculate .sub), ("*", .calculate .mul), ("/", .calculate .div),
   ("not", .not), ("lower", .lower), ("upper", .upper), ("coalesce", .coalesce), ("to_timestamp", .toTimestamp)]

-- Names do not depend on the case of ASCII letters.
def named? (name : String) : Option Function := spellings.lookup (Text.toLowerAscii name)

def takes : Function → Nat → Bool
  | .compare _, count => count == 2
  | .calculate _, count => count == 2
  | .coalesce, count => 1 ≤ count
  | .not, count => count == 1
  | .lower, count => count == 1
  | .upper, count => count == 1
  | .toTimestamp, count => count == 1

end Function

end DeltaQuery
