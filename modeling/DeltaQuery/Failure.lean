import DeltaQuery.Aggregate
import DeltaQuery.Cardinality
import DeltaQuery.Function
import DeltaQuery.Settings
import DeltaQuery.Value.Text

namespace DeltaQuery

inductive FailureKind
  | compilation
  | evaluation
  | retraction
  | value
  | io
  | cancelled
  | configuration
  | internal
deriving DecidableEq

namespace FailureKind

def name : FailureKind → String
  | .compilation => "COMPILATION"
  | .evaluation => "EVALUATION"
  | .retraction => "RETRACTION"
  | .value => "VALUE"
  | .io => "IO"
  | .cancelled => "CANCELLED"
  | .configuration => "CONFIG"
  | .internal => "INTERNAL"

def title : FailureKind → String
  | .compilation => "compilation error"
  | .evaluation => "evaluation error"
  | .retraction => "inconsistent retraction"
  | .value => "empty aggregate"
  | .io => "sink I/O error"
  | .cancelled => "cancelled"
  | .configuration => "invalid configuration"
  | .internal => "internal error"

-- An aggregate over no values is reported as a value; every other failure ends the run.
def isValueLevel (kind : FailureKind) : Bool := kind == .value

end FailureKind

inductive Stage
  | scan
  | filter
  | map
  | unionAll
  | groupBy
deriving DecidableEq

def Stage.name : Stage → String
  | .scan => "scan"
  | .filter => "filter"
  | .map => "map"
  | .unionAll => "union all"
  | .groupBy => "group by"

inductive Delimiter
  | opening
  | separating
  | closing
deriving DecidableEq

def Delimiter.description : Delimiter → String
  | .opening => "leading square bracket"
  | .separating => "separating comma"
  | .closing => "trailing square bracket"

inductive SinkAction
  | delimiting (delimiter : Delimiter)
  | encoding
  | terminating
  | flushing
  | described (text : String)
deriving DecidableEq

def SinkAction.text : SinkAction → String
  | .delimiting delimiter => "couldn't write " ++ delimiter.description
  | .encoding => "couldn't encode record as json"
  | .terminating => "couldn't terminate record"
  | .flushing => "couldn't flush output"
  | .described text => text

-- How a writer fails: it takes less than one write offered, it takes nothing more of a longer text, or it
-- refuses in words of its own.
inductive WriteFault
  | short
  | exhausted
  | refused (text : String)
deriving DecidableEq

def WriteFault.text : WriteFault → String
  | .short => "write zero"
  | .exhausted => "failed to write whole buffer"
  | .refused text => text

inductive SumAction
  | incorporate
  | undo
deriving DecidableEq

def SumAction.name : SumAction → String
  | .incorporate => "incorporate"
  | .undo => "undo"

inductive Cause
  | unknownFunction (name : String)
  | argumentCount (function : Function) (count : Nat)
  | unknownAggregate (name : String)
  | aggregateArgument (text : String)
  | mapAliases (expressions aliases : Nat)
  | mapNames (expressions names : Nat)
  | groupAliases (fields aggregates aliases : Nat)
  | groupKeyNames (keys names : Nat)
  | groupNames (fields aggregates names : Nat)
  | unboundedGroups (mode : EmitMode) (cardinality : Cardinality)
  | unknownSource (name : String)
  | alreadyOpened
  | missingInput (path : String)
  | unknownVariable (name : String)
  | unknownField (name : String)
  | notDefinedFor (operation : String) (value : Value)
  | notComparable (left right : Value)
  | integerOverflow (operation : Arithmetic) (left right : Int64)
  | integerDivisionByZero (left right : Int64)
  | floatDivisionByZero (left right : Binary64)
  | unreadableTimestamp (text : String)
  | notSummable (action : SumAction) (value : Value)
  | sumOverflow (action : SumAction) (value total : Int64)
  | malformedLine (line : Nat)
  | objectField (line : Nat) (name : String)
  | undecodableLine (line : Nat)
  | scriptedPull (pull : Nat)
  | neverSaw (aggregate : Aggregate) (value : Value)
  | neverIncorporated (value : Value)
  | deadGroup (key : List Value)
  | unseenGroup (key : List Value)
  | noValues (aggregate : Aggregate)
  | sink (action : SinkAction) (fault : WriteFault)
  | stopped (stage : Stage)
  | malformedSettings
  | missingSettings (path : String)
  | undecodableSettings (path : String)
  | capacityTooLarge (capacity : Nat)
  | emptyLogFilter
  | unknownMode (text : String)
  | unknownStrategy (text : String)
  | notUnsigned (text : String)
  | pulledAfterFailure
  | writtenAfterClose
  | closedTwice
  | missingArgument (function : Function)
  | noNumber
  | endlessStream
  -- A failure of a source from outside, in its own words.
  | stated (kind : FailureKind) (text : String)
deriving DecidableEq

namespace Cause

def kind : Cause → FailureKind
  | .unknownFunction _ => .compilation
  | .argumentCount .. => .compilation
  | .unknownAggregate _ => .compilation
  | .aggregateArgument _ => .compilation
  | .mapAliases .. => .compilation
  | .mapNames .. => .compilation
  | .groupAliases .. => .compilation
  | .groupKeyNames .. => .compilation
  | .groupNames .. => .compilation
  | .unboundedGroups .. => .compilation
  | .unknownSource _ => .compilation
  | .alreadyOpened => .compilation
  | .missingInput _ => .compilation
  | .unknownVariable _ => .evaluation
  | .unknownField _ => .evaluation
  | .notDefinedFor .. => .evaluation
  | .notComparable .. => .evaluation
  | .integerOverflow .. => .evaluation
  | .integerDivisionByZero .. => .evaluation
  | .floatDivisionByZero .. => .evaluation
  | .unreadableTimestamp _ => .evaluation
  | .notSummable .. => .evaluation
  | .sumOverflow .. => .evaluation
  | .malformedLine _ => .evaluation
  | .objectField .. => .evaluation
  | .undecodableLine _ => .evaluation
  | .scriptedPull _ => .evaluation
  | .neverSaw .. => .retraction
  | .neverIncorporated _ => .retraction
  | .deadGroup _ => .retraction
  | .unseenGroup _ => .retraction
  | .noValues _ => .value
  | .sink .. => .io
  | .stopped _ => .cancelled
  | .malformedSettings => .configuration
  | .missingSettings _ => .configuration
  | .undecodableSettings _ => .configuration
  | .capacityTooLarge _ => .configuration
  | .emptyLogFilter => .configuration
  | .unknownMode _ => .configuration
  | .unknownStrategy _ => .configuration
  | .notUnsigned _ => .configuration
  | .pulledAfterFailure => .internal
  | .writtenAfterClose => .internal
  | .closedTwice => .internal
  | .missingArgument _ => .internal
  | .noNumber => .internal
  | .endlessStream => .internal
  | .stated kind _ => kind

def noSuchFile : String := "No such file or directory (os error 2)"

def notText : String := "stream did not contain valid UTF-8"

def maxGroupCapacity : Nat := 2 ^ 24

def overflowText (action : SumAction) (value total : Int64) : String :=
  match action with
  | .incorporate => s!"integer overflow adding {value.toInt} to sum {total.toInt}"
  | .undo => s!"integer overflow retracting {value.toInt} from sum {total.toInt}"

def text : Cause → String
  | .unknownFunction name => s!"unknown function {Text.quoted name}"
  | .argumentCount function count => s!"function {function.name} called with {count} arguments"
  | .unknownAggregate name => s!"unknown aggregate {Text.quoted name}"
  | .aggregateArgument text => s!"aggregate {Text.quoted text} must be kind:field[:alias]"
  | .mapAliases expressions aliases => s!"map has {expressions} expressions but {aliases} aliases"
  | .mapNames expressions names => s!"map has {expressions} expressions but {names} output names"
  | .groupAliases fields aggregates aliases =>
    s!"group by needs as many fields ({fields}), aggregates ({aggregates}) and aliases ({aliases})"
  | .groupKeyNames keys names => s!"group by has {keys} key expressions but {names} key names"
  | .groupNames fields aggregates names =>
    s!"group by fields ({fields}), aggregates ({aggregates}) and output names ({names}) differ in length"
  | .unboundedGroups mode cardinality =>
    s!"group by in {mode.inspect} emit mode needs a bounded source, got {cardinality.name}"
  | .unknownSource name => s!"unknown data source {Text.quoted name}"
  | .alreadyOpened => "input stream was already opened"
  | .missingInput path => s!"couldn't open input {path}: {noSuchFile}"
  | .unknownVariable name => s!"variable {name} not found in record"
  | .unknownField name => s!"field {name} not found in record"
  | .notDefinedFor operation value =>
    s!"{operation} is not defined for {value.typeName} value {value.display}"
  | .notComparable left right => s!"cannot compare {left.typeName} with {right.typeName}"
  | .integerOverflow operation left right =>
    s!"integer overflow: {left.toInt} {operation.name} {right.toInt}"
  | .integerDivisionByZero left right => s!"division by zero: {left.toInt} / {right.toInt}"
  | .floatDivisionByZero left right => s!"division by zero: {left.display} / {right.display}"
  | .unreadableTimestamp text => s!"to_timestamp({Text.quoted text})"
  | .notSummable action value => s!"sum cannot {action.name} {value.typeName} value {value.display}"
  | .sumOverflow action value total => overflowText action value total
  | .malformedLine line => s!"line {line}: malformed record"
  | .objectField line name => s!"line {line}: field {name} holds an object, which has no value form"
  | .undecodableLine line => s!"couldn't read line {line}: {notText}"
  | .scriptedPull pull => s!"scripted failure at pull {pull}"
  | .neverSaw aggregate value => s!"{aggregate.name} never saw value {value.display}"
  | .neverIncorporated value => s!"distinct value {value.display} was never incorporated"
  | .deadGroup key => s!"retraction for group {Value.inspectAll key} with no live records"
  | .unseenGroup key => s!"retraction for group {Value.inspectAll key} that was never inserted"
  | .noValues aggregate => s!"{aggregate.name} over no values"
  | .sink action fault => s!"{action.text}: {fault.text}"
  | .stopped stage => s!"{stage.name} stopped pulling"
  | .malformedSettings => "TOML parse error"
  | .missingSettings path => s!"couldn't read {path}: {noSuchFile}"
  | .undecodableSettings path => s!"couldn't read {path}: {notText}"
  | .capacityTooLarge capacity => s!"group_capacity_hint {capacity} exceeds maximum {maxGroupCapacity}"
  | .emptyLogFilter => "log_filter must not be empty"
  | .unknownMode text => s!"PLAN_STREAM_EMIT_MODE: unknown mode {Text.quoted text}"
  | .unknownStrategy text => s!"PLAN_STREAM_EXTREMUM_STRATEGY: unknown strategy {Text.quoted text}"
  | .notUnsigned text => s!"PLAN_STREAM_GROUP_CAPACITY_HINT: not an unsigned integer: {Text.quoted text}"
  | .pulledAfterFailure => "group by pulled after a failed pull"
  | .writtenAfterClose => "record written to a closed json sink"
  | .closedTwice => "json sink closed twice"
  | .missingArgument function => s!"function {function.name} lacks an argument"
  | .noNumber => "numeric value without numeric view"
  | .endlessStream => "stream gave more records than it had left"
  | .stated _ text => text

end Cause

-- Where a failure passed on its way out.
inductive Place
  | planNode (kind : String)
  | planSource
  | unionSource (index : Nat)
  | planPredicate
  | planColumn (index : Nat)
  | planKey (index : Nat)
  | planArgument (index : Nat) (parent : String)
  | opening (source : String)
  | reading (source : String)
  | filterPredicate
  | mapColumn (index : Nat)
  | unionChild (index : Nat)
  | groupKey (index : Nat)
  | aggregatedField (index : Nat)
  | aggregateUpdate (aggregate : Aggregate) (index : Nat)
  | nextRecord
  | writeRecord
  | closeOutput
  | settingsFile (path : String)
  | described (text : String)
deriving DecidableEq

def Place.text : Place → String
  | .planNode kind => s!"couldn't materialize {kind} node"
  | .planSource => "couldn't materialize Source node"
  | .unionSource index => s!"couldn't materialize source with index {index}"
  | .planPredicate => "couldn't materialize filter predicate"
  | .planColumn index => s!"couldn't materialize map expression with index {index}"
  | .planKey index => s!"couldn't materialize group key expression with index {index}"
  | .planArgument index parent => s!"couldn't materialize argument with index {index} of {parent}"
  | .opening source => s!"couldn't open source {source}"
  | .reading source => s!"couldn't read from source {source}"
  | .filterPredicate => "couldn't evaluate filter predicate"
  | .mapColumn index => s!"couldn't evaluate map expression with index {index}"
  | .unionChild index => s!"couldn't pull union all child with index {index}"
  | .groupKey index => s!"couldn't evaluate group key expression with index {index}"
  | .aggregatedField index => s!"couldn't evaluate aggregated field with index {index}"
  | .aggregateUpdate aggregate index =>
    s!"couldn't update {aggregate.name} for aggregated field with index {index}"
  | .nextRecord => "couldn't get next record"
  | .writeRecord => "couldn't write record"
  | .closeOutput => "couldn't close output"
  | .settingsFile path => path
  | .described text => text

-- The outermost place stands first. The kind is that of the cause, so no place a failure passes can change it.
structure Failure where
  places : List Place
  cause : Cause
deriving DecidableEq

namespace Failure

def of (cause : Cause) : Failure := ⟨[], cause⟩

def within (failure : Failure) (place : Place) : Failure :=
  { failure with places := place :: failure.places }

def kind (failure : Failure) : FailureKind := failure.cause.kind

def message (failure : Failure) : String :=
  ": ".intercalate (failure.kind.title :: failure.places.map Place.text ++ [failure.cause.text])

theorem kind_within (failure : Failure) (place : Place) : (failure.within place).kind = failure.kind := rfl

end Failure

def Place.around {α : Type} (place : Place) : Except Failure α → Except Failure α :=
  Except.mapError (·.within place)

@[simp]
theorem Place.around_ok {α : Type} (place : Place) (value : α) : place.around (.ok value) = .ok value := rfl

@[simp]
theorem Place.around_error {α : Type} (place : Place) (failure : Failure) :
    place.around (.error failure : Except Failure α) = .error (failure.within place) := rfl

def failing {α : Type} : Except Cause α → Except Failure α := Except.mapError Failure.of

@[simp]
theorem failing_ok {α : Type} (value : α) : failing (.ok value) = .ok value := rfl

@[simp]
theorem failing_error {α : Type} (cause : Cause) : failing (.error cause : Except Cause α) = .error (.of cause) := rfl

end DeltaQuery
