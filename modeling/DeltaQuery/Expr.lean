import DeltaQuery.Formula
import DeltaQuery.Outline

namespace DeltaQuery

-- Functions are still names here, so that rewriting can put in any call.
inductive Expr
  | variable (name : String)
  | constant (value : Value)
  | call (name : String) (arguments : List Expr)
  | connect (connective : Connective) (operands : List Expr)

namespace Expr

instance : Inhabited Expr := ⟨.constant .null⟩

mutual

private def decideEq : (a b : Expr) → Decidable (a = b)
  | .variable a, b =>
    match b with
    | .variable b => decidable_of_iff (a = b) (by simp)
    | .constant _ | .call .. | .connect .. => .isFalse (by simp)
  | .constant a, b =>
    match b with
    | .constant b => decidable_of_iff (a = b) (by simp)
    | .variable _ | .call .. | .connect .. => .isFalse (by simp)
  | .call f as, b =>
    match b with
    | .call g bs =>
      have := decideAllEq as bs
      decidable_of_iff (f = g ∧ as = bs) (by simp)
    | .variable _ | .constant _ | .connect .. => .isFalse (by simp)
  | .connect c as, b =>
    match b with
    | .connect d bs =>
      have := decideAllEq as bs
      decidable_of_iff (c = d ∧ as = bs) (by simp)
    | .variable _ | .constant _ | .call .. => .isFalse (by simp)

private def decideAllEq : (as bs : List Expr) → Decidable (as = bs)
  | [], [] => .isTrue rfl
  | [], _ :: _ => .isFalse (by simp)
  | _ :: _, [] => .isFalse (by simp)
  | a :: as, b :: bs =>
    have := decideEq a b
    have := decideAllEq as bs
    decidable_of_iff (a = b ∧ as = bs) (by simp)

end

instance : DecidableEq Expr := decideEq

-- The name of the column an expression makes by itself; only a variable has one.
def outputName : Expr → String
  | .variable name => name
  | _ => ""

mutual

def resolve : Expr → Except Failure Formula
  | .variable name => .ok (.variable name)
  | .constant value => .ok (.constant value)
  | .call name arguments =>
    match Function.resolve name arguments.length with
    | .error cause => .error (Failure.of cause)
    | .ok function => (resolveFrom name 0 arguments).map (.call function)
  | .connect connective operands =>
    (resolveFrom connective.name 0 operands).map (.connect connective)

-- A call is resolved before its arguments. These are the ones of `parent` from this index on.
def resolveFrom (parent : String) (index : Nat) : List Expr → Except Failure (List Formula)
  | [] => .ok []
  | argument :: arguments =>
    match (Place.planArgument index parent).around (resolve argument) with
    | .error failure => .error failure
    | .ok formula => (resolveFrom parent (index + 1) arguments).map (formula :: ·)

end

mutual

def outline : Expr → Outline
  | .variable name => .node "variable" [("name", name)] []
  | .constant value => .node "constant" [("value", value.display)] []
  | .call name arguments => .node "function" [("name", name)] (Outline.numbered "arg" (outlines arguments))
  | .connect connective operands => .node connective.name [] (Outline.numbered "arg" (outlines operands))

def outlines : List Expr → List Outline
  | [] => []
  | expr :: exprs => outline expr :: outlines exprs

end

def render (expr : Expr) : String := expr.outline.render

end Expr

end DeltaQuery
