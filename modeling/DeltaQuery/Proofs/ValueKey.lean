import DeltaQuery.Proofs.ValueOrder
import Std.Data.HashMap

namespace DeltaQuery.Value

theorem marked_inj {left right : List Char} {xs ys : List Nat}
    (same : left.map (·.toNat + 1) ++ 0 :: xs = right.map (·.toNat + 1) ++ 0 :: ys) : left = right ∧ xs = ys := by
  induction left generalizing right with
  | nil => cases right <;> simp_all
  | cons first left ih =>
    cases right with
    | nil => simp at same
    | cons second right =>
      simp only [List.map_cons, List.cons_append, List.cons.injEq, Nat.add_right_cancel_iff] at same
      obtain ⟨here, later⟩ := same
      obtain ⟨rfl, rest⟩ := ih later
      exact ⟨by rw [Char.toNat_inj.mp here], rest⟩

theorem textInput_append_inj {s t : String} {xs ys : List Nat} (same : textInput s ++ xs = textInput t ++ ys) :
    s = t ∧ xs = ys := by
  simp only [textInput, List.append_assoc, List.singleton_append] at same
  obtain ⟨characters, rest⟩ := marked_inj same
  exact ⟨String.toList_inj.mp characters, rest⟩

-- The first number tells the type, and each part of a value ends where it says.
mutual

theorem hashInput_append_inj : (a b : Value) → {xs ys : List Nat} → hashInput a ++ xs = hashInput b ++ ys →
    a = b ∧ xs = ys
  | .null, b, xs, ys, same => by cases b <;> simp_all [hashInput]
  | .bool a, b, xs, ys, same => by
    cases b with
    | bool b => cases a <;> cases b <;> simp_all [hashInput]
    | _ => simp [hashInput] at same
  | .int a, b, xs, ys, same => by
    cases b with
    | int b =>
      simp only [hashInput, List.cons_append, List.nil_append, List.cons.injEq, true_and] at same
      obtain ⟨word, rest⟩ := same
      have bits : a.toUInt64 = b.toUInt64 := UInt64.toNat_inj.mp word
      have number : a = b := by simpa using congrArg UInt64.toInt64 bits
      exact ⟨by rw [number], rest⟩
    | _ => simp [hashInput] at same
  | .float a, b, xs, ys, same => by
    cases b with
    | float b =>
      simp only [hashInput, List.cons_append, List.nil_append, List.cons.injEq, true_and] at same
      obtain ⟨word, rest⟩ := same
      obtain ⟨a⟩ := a
      obtain ⟨b⟩ := b
      have bits : a = b := UInt64.toNat_inj.mp word
      exact ⟨by rw [bits], rest⟩
    | _ => simp [hashInput] at same
  | .text a, b, xs, ys, same => by
    cases b with
    | text b =>
      simp only [hashInput, List.cons_append, List.cons.injEq, true_and] at same
      obtain ⟨rfl, rest⟩ := textInput_append_inj same
      exact ⟨rfl, rest⟩
    | _ => simp [hashInput] at same
  | .time a, b, xs, ys, same => by
    cases b with
    | time b =>
      obtain ⟨seconds, nanos, _⟩ := a
      obtain ⟨otherSeconds, otherNanos, _⟩ := b
      simp only [hashInput, List.cons_append, List.nil_append, List.cons.injEq, true_and] at same
      obtain ⟨signed, rfl, rest⟩ := same
      have seconds : seconds = otherSeconds := by
        split at signed <;> split at signed <;> omega
      subst seconds
      exact ⟨rfl, rest⟩
    | _ => simp [hashInput] at same
  | .tuple a, b, xs, ys, same => by
    cases b with
    | tuple b =>
      simp only [hashInput, List.cons_append, List.cons.injEq, true_and] at same
      obtain ⟨rfl, rest⟩ := hashInputs_append_inj a b same.1 same.2
      exact ⟨rfl, rest⟩
    | _ => simp [hashInput] at same

theorem hashInputs_append_inj : (as bs : List Value) → {xs ys : List Nat} → as.length = bs.length →
    hashInputs as ++ xs = hashInputs bs ++ ys → as = bs ∧ xs = ys
  | [], [], xs, ys, _, same => ⟨rfl, by simpa [hashInputs] using same⟩
  | a :: as, b :: bs, xs, ys, length, same => by
    simp only [hashInputs, List.append_assoc] at same
    obtain ⟨rfl, later⟩ := hashInput_append_inj a b same
    obtain ⟨rfl, rest⟩ := hashInputs_append_inj as bs (Nat.succ.inj length) later
    exact ⟨rfl, rest⟩

end

theorem hashInput_inj {a b : Value} : a.hashInput = b.hashInput ↔ a = b := by
  constructor
  · intro same
    exact (@hashInput_append_inj a b [] [] (by rw [same])).1
  · rintro rfl
    rfl

section

variable {β : Type}

inductive Write (β : Type)
  | put (key : Value) (item : β)
  | remove (key : Value)

abbrev OrderedMap (β : Type) := Std.TreeMap Value β compare
abbrev HashedMap (β : Type) := Std.HashMap Value β

def OrderedMap.write (map : OrderedMap β) : Write β → OrderedMap β
  | .put key item => map.insert key item
  | .remove key => map.erase key

def HashedMap.write (map : HashedMap β) : Write β → HashedMap β
  | .put key item => map.insert key item
  | .remove key => map.erase key

-- Neither map can be told from the other by its keys.
structure SameKeys (ordered : OrderedMap β) (hashed : HashedMap β) : Prop where
  entry : ∀ key : Value, ordered[key]? = hashed[key]?
  size : ordered.size = hashed.size

variable {ordered : OrderedMap β} {hashed : HashedMap β}

theorem SameKeys.contains_iff (same : SameKeys ordered hashed) (key : Value) :
    ordered.contains key = true ↔ key ∈ hashed := by
  rw [Std.TreeMap.contains_eq_isSome_getElem?, same.entry, ← Std.HashMap.contains_eq_isSome_getElem?,
    Std.HashMap.contains_iff_mem]

theorem SameKeys.write (same : SameKeys ordered hashed) (write : Write β) :
    SameKeys (ordered.write write) (hashed.write write) := by
  have contains := same.contains_iff
  cases write with
  | put key item =>
    refine ⟨?_, ?_⟩
    · intro other
      change (ordered.insert key item)[other]? = (hashed.insert key item)[other]?
      rw [Std.TreeMap.getElem?_insert, Std.HashMap.getElem?_insert, same.entry]
      simp only [compare_eq_iff, beq_iff_eq]
    · change (ordered.insert key item).size = (hashed.insert key item).size
      simp only [Std.TreeMap.size_insert, Std.HashMap.size_insert, same.size, contains]
  | remove key =>
    refine ⟨?_, ?_⟩
    · intro other
      change (ordered.erase key)[other]? = (hashed.erase key)[other]?
      rw [Std.TreeMap.getElem?_erase, Std.HashMap.getElem?_erase, same.entry]
      simp only [compare_eq_iff, beq_iff_eq]
    · change (ordered.erase key).size = (hashed.erase key).size
      simp only [Std.TreeMap.size_erase, Std.HashMap.size_erase, same.size, contains]

theorem sameKeys_foldl (same : SameKeys ordered hashed) (writes : List (Write β)) :
    SameKeys (writes.foldl OrderedMap.write ordered) (writes.foldl HashedMap.write hashed) := by
  induction writes generalizing ordered hashed with
  | nil => exact same
  | cons write writes ih => exact ih (same.write write)

theorem sameKeys_empty : SameKeys (∅ : OrderedMap β) ∅ := ⟨by simp, by simp⟩

end

theorem compare_chain {a b c : Value} {order : Ordering} (ab : compare a b = order) (bc : compare b c = order) :
    compare a c = order := by
  cases order with
  | lt => exact Std.TransCmp.lt_trans ab bc
  | eq => exact Std.TransCmp.eq_trans ab bc
  | gt => exact Std.TransCmp.gt_trans ab bc

-- The order is total and calls nothing equal but a value and itself, values give the same data to a hash exactly
-- when they are equal, sorting has one result, and maps by order and by hash cannot be told apart.
theorem order_equality_and_hash_agree :
    (∀ a b : Value, compare b a = (compare a b).swap) ∧
    (∀ a b c : Value, (compare a b).isLE → (compare b c).isLE → (compare a c).isLE) ∧
    (∀ (a b c : Value) (order : Ordering), compare a b = order → compare b c = order → compare a c = order) ∧
    (∀ a b : Value, compare a b = .eq ↔ a = b) ∧
    (∀ a b : Value, a.hashInput = b.hashInput ↔ a = b) ∧
    (∀ values : List Value, (sort values).Perm values ∧ (sort values).Pairwise fun a b => (compare a b).isLE) ∧
    (∀ values arranged : List Value, arranged.Perm values → sort arranged = sort values ∧
      ((arranged.Pairwise fun a b => (compare a b).isLE) → arranged = sort values)) ∧
    ∀ (β : Type) (writes : List (Write β)),
      SameKeys (writes.foldl OrderedMap.write ∅) (writes.foldl HashedMap.write ∅) := by
  refine ⟨fun a b => compare_swap b a, compare_trans, fun a b c order => compare_chain, compare_eq_iff,
    fun a b => hashInput_inj, fun values => ⟨sort_perm values, sort_pairwise values⟩, ?_, ?_⟩
  · intro values arranged perm
    exact ⟨eq_sort ((sort_perm arranged).trans perm) (sort_pairwise arranged), eq_sort perm⟩
  · intro β writes
    exact sameKeys_foldl sameKeys_empty writes

-- Above 2^53 two integers can have one nearest float: both come before it, though the second is the greater number.
theorem order_equality_and_hash_agree_past_floats :
    compare (.int 9007199254740992) (.int 9007199254740993) = .lt ∧
      compare (.int 9007199254740993) (.float (Binary64.ofInt 9007199254740992)) = .lt ∧
      compare (.int 9007199254740992) (.float (Binary64.ofInt 9007199254740992)) = .lt ∧
      sort [.int 9007199254740993, .float (Binary64.ofInt 9007199254740992), .int 9007199254740992] =
        [.int 9007199254740992, .int 9007199254740993, .float (Binary64.ofInt 9007199254740992)] := by
  have first : compare (.int 9007199254740992) (.int 9007199254740993) = .lt := by decide
  have second : compare (.int 9007199254740993) (.float (Binary64.ofInt 9007199254740992)) = .lt := by decide +kernel
  have third : compare (.int 9007199254740992) (.float (Binary64.ofInt 9007199254740992)) = .lt :=
    order_equality_and_hash_agree.2.2.1 _ _ _ _ first second
  refine ⟨first, second, third, ?_⟩
  have perm : [Value.int 9007199254740992, .int 9007199254740993, .float (Binary64.ofInt 9007199254740992)].Perm
      [.int 9007199254740993, .float (Binary64.ofInt 9007199254740992), .int 9007199254740992] :=
    @List.perm_append_comm _ [Value.int 9007199254740992] [_, _]
  refine ((order_equality_and_hash_agree.2.2.2.2.2.2.1 _ _ perm).2 ?_).symm
  simp [first, second, third]

end DeltaQuery.Value
