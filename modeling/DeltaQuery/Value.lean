import DeltaQuery.Binary64
import DeltaQuery.Instant

namespace DeltaQuery

inductive Value
  | null
  | bool (b : Bool)
  | int (i : Int64)
  | float (x : Binary64)
  | text (s : String)
  | time (t : Instant)
  | tuple (items : List Value)

namespace Value

instance : Inhabited Value := ⟨.null⟩

def isNull : Value → Bool
  | .null => true
  | _ => false

def typeName : Value → String
  | .null => "null"
  | .bool _ => "bool"
  | .int _ => "int"
  | .float _ => "float"
  | .text _ => "string"
  | .time _ => "time"
  | .tuple _ => "tuple"

def typeRank : Value → Nat
  | .null => 0
  | .bool _ => 1
  | .int _ => 2
  | .float _ => 3
  | .text _ => 4
  | .time _ => 5
  | .tuple _ => 6

def floatOfInt (i : Int64) : Binary64 := Binary64.ofInt i.toInt

def toFloat? : Value → Option Binary64
  | .int i => some (floatOfInt i)
  | .float x => some x
  | _ => none

mutual

-- Integers and floats are ordered together, by number, and values of other types by the rank of the type. An integer
-- is placed by the float nearest to it, and before one that it ties with, so that only identical values compare
-- equal.
def compare : Value → Value → Ordering
  | .null, .null => .eq
  | .bool a, .bool b => Ord.compare a b
  | .int a, .int b => Ord.compare a b
  | .float a, .float b => Ord.compare a b
  | .int a, .float b => (Ord.compare (floatOfInt a) b).then .lt
  | .float a, .int b => (Ord.compare a (floatOfInt b)).then .gt
  | .text a, .text b => Ord.compare a b
  | .time a, .time b => Ord.compare a b
  | .tuple a, .tuple b => compareItems a b
  | a, b => Ord.compare a.typeRank b.typeRank

-- Item by item; of two tuples of which one continues the other, the shorter comes first.
def compareItems : List Value → List Value → Ordering
  | [], [] => .eq
  | [], _ :: _ => .lt
  | _ :: _, [] => .gt
  | a :: as, b :: bs => (compare a b).then (compareItems as bs)

end

instance : Ord Value := ⟨compare⟩

private theorem ord_eq_iff {α : Type} [Ord α] [Std.LawfulEqOrd α] (a b : α) : Ord.compare a b = .eq ↔ a = b :=
  Std.LawfulEqOrd.compare_eq_iff_eq

private theorem then_eq_iff (o p : Ordering) : o.then p = .eq ↔ o = .eq ∧ p = .eq := by
  cases o <;> simp [Ordering.then]

private theorem binary64_eq_iff (a b : Binary64) : Ord.compare a b = .eq ↔ a = b := by
  rw [Binary64.compare_eq_compare_rank, ord_eq_iff, Binary64.rank_inj]

private theorem instant_eq_iff (a b : Instant) : Ord.compare a b = .eq ↔ a = b := by
  rw [Instant.compare_eq_then, then_eq_iff, ord_eq_iff, ord_eq_iff]
  cases a; cases b; simp

mutual

theorem compare_eq_iff : (a b : Value) → (compare a b = .eq ↔ a = b)
  | .null, b => by cases b <;> simp [compare, typeRank]
  | .bool a, b => by cases b <;> simp [compare, typeRank]
  | .int a, b => by cases b <;> simp [compare, typeRank]
  | .float a, b => by cases b <;> simp [compare, typeRank, binary64_eq_iff]
  | .text a, b => by cases b <;> simp [compare, typeRank]
  | .time a, b => by cases b <;> simp [compare, typeRank, instant_eq_iff]
  | .tuple a, b => by
      cases b with
      | tuple b => simp [compare, compareItems_eq_iff a b]
      | _ => simp [compare, typeRank]

theorem compareItems_eq_iff : (as bs : List Value) → (compareItems as bs = .eq ↔ as = bs)
  | [], [] => by simp [compareItems]
  | [], _ :: _ => by simp [compareItems]
  | _ :: _, [] => by simp [compareItems]
  | a :: as, b :: bs => by
      simp [compareItems, compare_eq_iff a b, compareItems_eq_iff as bs]

end

-- Two values are equal when the order puts neither first.
instance : DecidableEq Value := fun a b => decidable_of_iff (compare a b = .eq) (compare_eq_iff a b)

def sort (values : List Value) : List Value := values.mergeSort fun a b => (compare a b).isLE

def withoutRepeats : List Value → List Value
  | a :: b :: rest => if a = b then withoutRepeats (b :: rest) else a :: withoutRepeats (b :: rest)
  | values => values

def textInput (s : String) : List Nat := s.toList.map (·.toNat + 1) ++ [0]

mutual

-- The data a value gives to a hash. Each part says where it ends, so different values give different data.
def hashInput : Value → List Nat
  | .null => [0]
  | .bool b => [1, b.toNat]
  | .int i => [2, i.toUInt64.toNat]
  | .float x => [3, x.bits.toNat]
  | .text s => 4 :: textInput s
  | .time t => [5, (t.seconds * 2).natAbs + (if t.seconds < 0 then 1 else 0), t.nanos]
  | .tuple items => 6 :: items.length :: hashInputs items

def hashInputs : List Value → List Nat
  | [] => []
  | item :: items => hashInput item ++ hashInputs items

end

instance : Hashable Value := ⟨fun v => v.hashInput.foldl (fun h n => mixHash h (hash n)) 7⟩

end Value

end DeltaQuery
