import DeltaQuery.Failure

namespace DeltaQuery

def Aggregate.resolve (name : String) : Except Cause Aggregate :=
  match named? name with
  | some aggregate => .ok aggregate
  | none => .error (.unknownAggregate name)

end DeltaQuery
