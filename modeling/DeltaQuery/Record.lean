import DeltaQuery.Value.Text

namespace DeltaQuery

inductive EventKind
  | insert
  | retract
deriving DecidableEq

namespace EventKind

def inverted : EventKind → EventKind
  | .insert => .retract
  | .retract => .insert

def isRetraction : EventKind → Bool
  | .insert => false
  | .retract => true

def sign : EventKind → String
  | .insert => "+"
  | .retract => "-"

def inspect : EventKind → String
  | .insert => "Insert"
  | .retract => "Retract"

end EventKind

structure Record where
  columns : List (String × Value)
  kind : EventKind
deriving DecidableEq

namespace Record

-- Names and values side by side; what one list has more than the other is dropped.
def ofLists (names : List String) (values : List Value) (kind : EventKind) : Record :=
  ⟨names.zip values, kind⟩

def names (record : Record) : List String := record.columns.map (·.1)
def values (record : Record) : List Value := record.columns.map (·.2)

-- The value of the first column of a name.
def value? (record : Record) (name : String) : Option Value := record.columns.lookup name

def withKind (record : Record) (kind : EventKind) : Record := { record with kind }

def cancels (record other : Record) : Bool :=
  record.kind == other.kind.inverted && record.columns == other.columns

def display (record : Record) : String :=
  let columns := record.columns.map fun (name, value) => name ++ ": " ++ value.display
  record.kind.sign ++ "\x7b" ++ ", ".intercalate columns ++ "\x7d"

def inspectNames (names : List String) : String :=
  "[" ++ ", ".intercalate (names.map fun name => "VariableName(" ++ Text.quoted name ++ ")") ++ "]"

def inspect (record : Record) : String :=
  "Record \x7b fields: " ++ inspectNames record.names ++ ", values: " ++ Value.inspectAll record.values ++
    ", event_kind: " ++ record.kind.inspect ++ " \x7d"

end Record

end DeltaQuery
