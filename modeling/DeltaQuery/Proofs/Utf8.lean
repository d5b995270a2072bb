import DeltaQuery.ByName

namespace DeltaQuery.Text

def bytes (text : List Char) : List UInt8 := text.flatMap String.utf8EncodeChar

theorem bytes_append (text more : List Char) : bytes (text ++ more) = bytes text ++ bytes more := List.flatMap_append

theorem toListFrom_eq (array : ByteArray) (i : Nat) (read : List UInt8) :
    ByteArray.toList.loop array i read = read.reverse ++ array.data.toList.drop i := by
  fun_induction ByteArray.toList.loop array i read with
  | case1 i read inside ih =>
    have here : i < array.data.toList.length := inside
    rw [ih, List.drop_eq_getElem_cons here]
    simp [ByteArray.get!, inside]
  | case2 i read outside =>
    have past : array.data.toList.length ≤ i := Nat.le_of_not_lt outside
    rw [List.drop_eq_nil_of_le past, List.append_nil]

theorem toList_toByteArray (list : List UInt8) : list.toByteArray.toList = list := by
  rw [ByteArray.toList, toListFrom_eq, List.toList_data_toByteArray]
  rfl

theorem toByteArray_bytes (text : List Char) : (bytes text).toByteArray = (String.ofList text).toByteArray :=
  String.toByteArray_ofList.symm

theorem toList_toUTF8 (text : String) : text.toUTF8.toList = bytes text.toList := by
  rw [String.toUTF8_eq_toByteArray, ← toList_toByteArray (bytes text.toList), toByteArray_bytes, String.ofList_toList]

theorem fromUTF8?_bytes (text : List Char) : String.fromUTF8? ⟨(bytes text).toArray⟩ = some (String.ofList text) := by
  have same : ⟨(bytes text).toArray⟩ = (String.ofList text).toByteArray := by
    refine ByteArray.ext (Array.toList_inj.mp ?_)
    rw [← toByteArray_bytes, List.toList_data_toByteArray]
  rw [same, String.fromUTF8?, dif_pos (String.ofList text).isValidUTF8]
  rfl

-- No text is the front of another unless its characters are.
theorem isPrefix_of_bytes {text other : List Char} (front : bytes text <+: bytes other) : text <+: other := by
  obtain ⟨rest, same⟩ := front
  refine List.isPrefix_of_utf8Encode_append_eq_utf8Encode rest.toByteArray ?_
  rw [List.utf8Encode, List.utf8Encode, ← List.toByteArray_append]
  exact congrArg List.toByteArray same

theorem utf8EncodeChar_cases (c : Char) :
    (c.toNat ≤ 0x7f ∧ String.utf8EncodeChar c = [.ofNat c.toNat]) ∨
    (0x7f < c.toNat ∧ c.toNat ≤ 0x7ff ∧
      String.utf8EncodeChar c = [.ofNat (c.toNat / 64 % 32 + 0xc0), .ofNat (c.toNat % 64 + 0x80)]) ∨
    (0x7ff < c.toNat ∧ c.toNat ≤ 0xffff ∧
      String.utf8EncodeChar c = [.ofNat (c.toNat / 4096 % 16 + 0xe0), .ofNat (c.toNat / 64 % 64 + 0x80),
        .ofNat (c.toNat % 64 + 0x80)]) ∨
    (0xffff < c.toNat ∧ c.toNat ≤ 0x10ffff ∧
      String.utf8EncodeChar c = [.ofNat (c.toNat / 262144 % 8 + 0xf0), .ofNat (c.toNat / 4096 % 64 + 0x80),
        .ofNat (c.toNat / 64 % 64 + 0x80), .ofNat (c.toNat % 64 + 0x80)]) := by
  have valid : c.toNat ≤ 0x10ffff := by
    rcases c.valid with low | high
    · exact Nat.le_trans (Nat.le_of_lt low) (by decide)
    · exact Nat.le_of_lt_succ high.2
  have encoded : String.utf8EncodeChar c = if c.toNat ≤ 0x7f then _ else if c.toNat ≤ 0x7ff then _ else
      if c.toNat ≤ 0xffff then _ else _ := rfl
  by_cases one : c.toNat ≤ 0x7f
  · exact .inl ⟨one, encoded.trans (if_pos one)⟩
  rw [if_neg one] at encoded
  by_cases two : c.toNat ≤ 0x7ff
  · exact .inr (.inl ⟨by omega, two, encoded.trans (if_pos two)⟩)
  rw [if_neg two] at encoded
  by_cases three : c.toNat ≤ 0xffff
  · exact .inr (.inr (.inl ⟨by omega, three, encoded.trans (if_pos three)⟩))
  · exact .inr (.inr (.inr ⟨by omega, valid, encoded.trans (if_neg three)⟩))

-- Only a line feed has the byte of one.
theorem eq_lineFeed_of_mem_utf8EncodeChar {c : Char} (member : 10 ∈ String.utf8EncodeChar c) : c = '\n' := by
  refine Char.toNat_inj.mp ?_
  rcases utf8EncodeChar_cases c with ⟨_, bytes⟩ | ⟨_, _, bytes⟩ | ⟨_, _, bytes⟩ | ⟨_, _, bytes⟩ <;>
  · simp only [bytes, List.mem_cons, List.not_mem_nil, or_false, ← UInt8.toNat_inj, UInt8.toNat_ofNat',
      UInt8.reduceToNat] at member
    simp only [Char.reduceToNat]
    omega

theorem lineFeed_mem_of_mem_bytes {text : List Char} (member : 10 ∈ bytes text) : '\n' ∈ text := by
  obtain ⟨c, inText, inChar⟩ := List.mem_flatMap.mp member
  exact eq_lineFeed_of_mem_utf8EncodeChar inChar ▸ inText

-- The bytes of two characters part where the lower one has the lower byte, whatever follows.
theorem utf8EncodeChar_append_lt {c d : Char} (less : c < d) (more others : List UInt8) :
    String.utf8EncodeChar c ++ more < String.utf8EncodeChar d ++ others := by
  have codes : c.toNat < d.toNat := less
  have parts (n : Nat) : n = 262144 * (n / 262144) + 4096 * (n / 4096 % 64) + 64 * (n / 64 % 64) + n % 64 := by omega
  have := parts c.toNat
  have := parts d.toNat
  rcases utf8EncodeChar_cases c with ⟨_, bytes⟩ | ⟨_, _, bytes⟩ | ⟨_, _, bytes⟩ | ⟨_, _, bytes⟩ <;>
  rcases utf8EncodeChar_cases d with ⟨_, bytes'⟩ | ⟨_, _, bytes'⟩ | ⟨_, _, bytes'⟩ | ⟨_, _, bytes'⟩ <;>
  · simp only [bytes, bytes', List.cons_append, List.nil_append, List.cons_lt_cons_iff, UInt8.lt_iff_toNat_lt,
      ← UInt8.toNat_inj, UInt8.toNat_ofNat']
    simp (disch := omega) only [Nat.mod_eq_of_lt]
    omega

theorem bytes_lt {text other : List Char} (less : text < other) : bytes text < bytes other := by
  induction less with
  | @nil c rest =>
    obtain ⟨first, more, encoded⟩ := List.exists_cons_of_ne_nil (String.utf8EncodeChar_ne_nil (c := c))
    rw [bytes, bytes, List.flatMap_cons, encoded]
    exact List.nil_lt_cons _ _
  | rel less => exact utf8EncodeChar_append_lt less _ _
  | cons _ ih => exact List.append_left_lt ih

end DeltaQuery.Text
