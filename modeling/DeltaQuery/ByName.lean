namespace DeltaQuery.ByName

variable {α : Type}

def put (name : String) (value : α) : List (String × α) → List (String × α)
  | [] => [(name, value)]
  | (other, held) :: rest =>
    match compare name other with
    | .lt => (name, value) :: (other, held) :: rest
    | .eq => (name, value) :: rest
    | .gt => (other, held) :: put name value rest

-- Sorted by name, which is also the order of the UTF-8 bytes, each name with the last value given for it.
def sorted (entries : List (String × α)) : List (String × α) :=
  entries.foldl (fun held (name, value) => put name value held) []

end DeltaQuery.ByName
