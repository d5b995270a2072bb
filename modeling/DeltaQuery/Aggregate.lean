import DeltaQuery.Text.Blank
import DeltaQuery.Text.Case

namespace DeltaQuery

inductive Aggregate
  | avg
  | avgDistinct
  | count
  | countDistinct
  | first
  | last
  | max
  | min
  | sum
  | sumDistinct
deriving DecidableEq

namespace Aggregate

def all : List Aggregate :=
  [.avg, .avgDistinct, .count, .countDistinct, .first, .last, .max, .min, .sum, .sumDistinct]

def name : Aggregate → String
  | .avg => "avg"
  | .avgDistinct => "avg_distinct"
  | .count => "count"
  | .countDistinct => "count_distinct"
  | .first => "first"
  | .last => "last"
  | .max => "max"
  | .min => "min"
  | .sum => "sum"
  | .sumDistinct => "sum_distinct"

def inspect : Aggregate → String
  | .avg => "Avg"
  | .avgDistinct => "AvgDistinct"
  | .count => "Count"
  | .countDistinct => "CountDistinct"
  | .first => "First"
  | .last => "Last"
  | .max => "Max"
  | .min => "Min"
  | .sum => "Sum"
  | .sumDistinct => "SumDistinct"

-- A name without the white space around it, in ASCII lower case, with underscores for spaces.
def normalized (name : String) : String :=
  let inner := Text.trimmed name.toList
  String.ofList (inner.map fun c => if c = ' ' then '_' else c.toLower)

def named? (name : String) : Option Aggregate := all.find? (·.name == normalized name)

end Aggregate

end DeltaQuery
