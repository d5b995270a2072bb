namespace DeltaQuery

inductive Outline
  | node (name : String) (fields : List (String × String)) (children : List (String × Outline))

namespace Outline

def pad (depth : Nat) : String := String.ofList (List.replicate (2 * depth) ' ')

def fieldLine (depth : Nat) (field : String × String) : String :=
  pad depth ++ "  " ++ field.1 ++ " = " ++ field.2 ++ "\n"

mutual

def renderAt (depth : Nat) : Outline → String
  | .node name fields children =>
    pad depth ++ name ++ "\n" ++ String.join (fields.map (fieldLine depth)) ++ renderChildren depth children

def renderChildren (depth : Nat) : List (String × Outline) → String
  | [] => ""
  | (label, child) :: children =>
    pad depth ++ "  " ++ label ++ ":\n" ++ renderAt (depth + 2) child ++ renderChildren depth children

end

def render (outline : Outline) : String := renderAt 0 outline

def numbered {α : Type} (label : String) (items : List α) : List (String × α) :=
  items.mapIdx fun i item => (label ++ "_" ++ toString i, item)

end Outline

end DeltaQuery
