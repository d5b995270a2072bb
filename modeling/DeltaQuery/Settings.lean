import DeltaQuery.Text.Quoted

namespace DeltaQuery

-- When a grouping emits: a row for every input record, or one for each group once the input has ended.
inductive EmitMode
  | changelog
  | final
deriving DecidableEq

-- How Min and Max recover from losing their extreme value: by an ordered multiset, or by a rescan.
inductive ExtremumStrategy
  | ordered
  | rescan
deriving DecidableEq

structure Settings where
  emitMode : EmitMode := .changelog
  extremumStrategy : ExtremumStrategy := .ordered
  groupCapacityHint : Nat := 64
  logFilter : String := "info"
deriving DecidableEq

-- The end of an endless input never comes.
def EmitMode.requiresBoundedInput (mode : EmitMode) : Bool := mode == .final

def EmitMode.inspect : EmitMode → String
  | .changelog => "Changelog"
  | .final => "Final"

def ExtremumStrategy.inspect : ExtremumStrategy → String
  | .ordered => "Ordered"
  | .rescan => "Rescan"

def EmitMode.named? : String → Option EmitMode
  | "changelog" => some .changelog
  | "final" => some .final
  | _ => none

def ExtremumStrategy.named? : String → Option ExtremumStrategy
  | "ordered" => some .ordered
  | "rescan" => some .rescan
  | _ => none

def Settings.inspect (settings : Settings) : String :=
  "EngineConfig \x7b emit_mode: " ++ settings.emitMode.inspect ++
    ", extremum_strategy: " ++ settings.extremumStrategy.inspect ++
    ", group_capacity_hint: " ++ toString settings.groupCapacityHint ++
    ", log_filter: " ++ Text.quoted settings.logFilter ++ " \x7d"

end DeltaQuery
