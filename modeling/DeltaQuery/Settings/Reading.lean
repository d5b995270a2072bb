import DeltaQuery.Failure
import DeltaQuery.Text.Blank
import DeltaQuery.Text.Case
import DeltaQuery.Text.Numeral
import DeltaQuery.Toml

namespace DeltaQuery.Settings

-- Documents and overrides end with this check: no hint beyond the largest, and a log filter that shows.
def check (settings : Settings) : Except Cause Unit :=
  if Cause.maxGroupCapacity < settings.groupCapacityHint then .error (.capacityTooLarge settings.groupCapacityHint)
  else if settings.logFilter.toList.all Text.isBlank then .error .emptyLogFilter
  else .ok ()

def checked (settings : Settings) : Except Cause Settings := do
  settings.check
  .ok settings

def enter? (settings : Settings) : String × Toml.Scalar → Option Settings
  | ("emit_mode", .text name) => (EmitMode.named? name).map fun mode => { settings with emitMode := mode }
  | ("extremum_strategy", .text name) =>
    (ExtremumStrategy.named? name).map fun strategy => { settings with extremumStrategy := strategy }
  | ("group_capacity_hint", .integer hint) =>
    if 0 ≤ hint ∧ hint < 2 ^ 64 then some { settings with groupCapacityHint := hint.toNat } else none
  | ("log_filter", .text filter) => some { settings with logFilter := filter }
  | _ => none

def parse (document : String) : Except Cause Settings :=
  match Toml.entries? document with
  | none => .error .malformedSettings
  | some entries =>
    match entries.foldlM enter? ({} : Settings) with
    | none => .error .malformedSettings
    | some settings => settings.checked

-- A number below 2^64 in decimal digits, with or without a plus sign.
def unsigned? (text : String) : Option Nat :=
  let digits := match text.toList with
    | '+' :: digits => digits
    | digits => digits
  match Text.numeral? 10 digits with
  | some n => if n < 2 ^ 64 then some n else none
  | none => none

def chosen {α : Type} (read? : String → Option α) (fault : String → Cause) (held : α) :
    Option String → Except Cause α
  | none => .ok held
  | some text =>
    match read? text with
    | some read => .ok read
    | none => .error (fault text)

def overrideNames : List String := ["EMIT_MODE", "EXTREMUM_STRATEGY", "GROUP_CAPACITY_HINT", "LOG_FILTER"]

-- Names of modes and strategies are exact in a document, and in overrides their letters may have any case.
def override (settings : Settings) (lookup : String → Option String) : Except Cause Settings := do
  let emitMode ← chosen (EmitMode.named? ∘ Text.toLowerAscii) .unknownMode settings.emitMode (lookup "EMIT_MODE")
  let extremumStrategy ← chosen (ExtremumStrategy.named? ∘ Text.toLowerAscii) .unknownStrategy
    settings.extremumStrategy (lookup "EXTREMUM_STRATEGY")
  let groupCapacityHint ← chosen unsigned? .notUnsigned settings.groupCapacityHint
    (lookup "GROUP_CAPACITY_HINT")
  let logFilter := (lookup "LOG_FILTER").getD settings.logFilter
  checked { emitMode, extremumStrategy, groupCapacityHint, logFilter }

end DeltaQuery.Settings
