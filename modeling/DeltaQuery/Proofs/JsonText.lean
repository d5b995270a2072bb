import DeltaQuery.Json.Parser
import DeltaQuery.Proofs.NumberText
import Mathlib.Data.List.Forall2

namespace DeltaQuery.Json

theorem hexUnit?_control : ∀ n < 32, hexUnit? '0' '0' (hexDigit (n / 16)) (hexDigit n) = some n := by decide

theorem string?_escapedChar (c : Char) (rest : List Char) :
    string? (escapedChar c ++ rest) = withChar c (string? rest) := by
  unfold escapedChar
  split
  case h_8 noQuote noEscape _ _ _ _ _ =>
    split
    next control =>
      have unit := hexUnit?_control c.toNat control
      have low : isLowHalf c.toNat = false := by simp [isLowHalf]; omega
      have high : isHighHalf c.toNat = false := by simp [isHighHalf]; omega
      simp only [List.cons_append, List.nil_append, string?, unit, low, high, Bool.false_eq_true, if_false,
        Char.ofNat_toNat]
    next printed =>
      rw [List.singleton_append, string?.eq_def]
      split <;> simp_all
  all_goals simp [string?, escapee?]

theorem string?_flatMap (s : List Char) (rest : List Char) :
    string? (s.flatMap escapedChar ++ '"' :: rest) = some (s, rest) := by
  induction s with
  | nil => rfl
  | cons c s ih => rw [List.flatMap_cons, List.append_assoc, string?_escapedChar, ih]; rfl

def Stops (rest : List Char) : Prop := ∀ c ∈ rest.head?, isNumeric c = false ∧ c.isAlpha = false

-- A text gives these tokens, and what follows it then gives its own.
def Lexes (text : List Char) (tokens : List Token) : Prop :=
  ∀ rest fuel, Stops rest → (text ++ rest).length ≤ fuel →
    ∃ left, rest.length ≤ left ∧ tokensWithin fuel (text ++ rest) = (tokensWithin left rest).map (tokens ++ ·)

theorem tokensWithin_cons {c : Char} {more rest : List Char} {token : Token} (visible : isSpace c = false)
    (first : token? c more = some (token, rest)) (fuel : Nat) :
    tokensWithin (fuel + 1) (c :: more) = (tokensWithin fuel rest).map (token :: ·) := by
  simp only [tokensWithin, visible, first, Bool.false_eq_true, if_false, Option.bind_eq_bind, Option.bind_some]
  cases tokensWithin fuel rest <;> rfl

namespace Lexes

variable {text more : List Char} {tokens others : List Token} {c : Char} {token : Token}

theorem first (visible : isSpace c = false) (begins : ∀ rest, token? c (text ++ rest) = some (token, rest))
    (others : Lexes more tokens) : Lexes (c :: text ++ more) (token :: tokens) := by
  intro rest fuel stops enough
  obtain ⟨fuel, rfl⟩ : ∃ less, fuel = less + 1 := ⟨fuel - 1, by simp at enough; omega⟩
  obtain ⟨left, fits, lexed⟩ := others rest fuel stops (by simp at enough ⊢; omega)
  refine ⟨left, fits, ?_⟩
  rw [List.append_assoc, List.cons_append, tokensWithin_cons visible (begins _), lexed, Option.map_map]
  rfl

theorem mark (visible : isSpace c = false) (begins : ∀ rest, token? c rest = some (token, rest))
    (others : Lexes more tokens) : Lexes (c :: more) (token :: tokens) := by
  have alone : ∀ rest, token? c ([] ++ rest) = some (token, rest) := begins
  exact first visible alone others

theorem single (visible : isSpace c = false) (begins : ∀ rest, Stops rest → token? c (text ++ rest) = some (token, rest)) :
    Lexes (c :: text) [token] := by
  intro rest fuel stops enough
  obtain ⟨fuel, rfl⟩ : ∃ less, fuel = less + 1 := ⟨fuel - 1, by simp at enough; omega⟩
  refine ⟨fuel, by simp at enough; omega, ?_⟩
  rw [List.cons_append, tokensWithin_cons visible (begins rest stops)]
  rfl

theorem append (stop : isNumeric c = false ∧ c.isAlpha = false) (front : Lexes text tokens)
    (back : Lexes (c :: more) others) : Lexes (text ++ c :: more) (tokens ++ others) := by
  intro rest fuel stops enough
  obtain ⟨middle, fits, lexed⟩ := front (c :: more ++ rest) fuel (by simpa [Stops] using stop) (by simpa using enough)
  obtain ⟨left, fits', lexed'⟩ := back rest middle stops fits
  refine ⟨left, fits', ?_⟩
  rw [List.append_assoc, lexed, lexed', Option.map_map]
  simp [Function.comp_def]

theorem nil : Lexes [] [] := by
  intro rest fuel _ enough
  exact ⟨fuel, enough, by simp⟩

theorem tokens?_eq (lexes : Lexes text tokens) : tokens? text = some tokens := by
  obtain ⟨left, _, lexed⟩ := lexes [] text.length nofun (by simp)
  rw [List.append_nil] at lexed
  rw [tokens?, lexed]
  cases left <;> simp [tokensWithin]

end Lexes

def commaTokens : List (List Token) → List Token
  | [] => []
  | [part] => part
  | part :: parts => part ++ .comma :: commaTokens parts

theorem commaTokens_cons_cons (part next : List Token) (parts : List (List Token)) :
    commaTokens (part :: next :: parts) = part ++ .comma :: commaTokens (next :: parts) := rfl

mutual

def tokens : Json → List Token
  | .array items => .openArray :: (commaTokens (itemTokens items) ++ [.closeArray])
  | .object members => .openObject :: (commaTokens (memberTokens members) ++ [.closeObject])
  | scalar => [.scalar scalar]

def itemTokens : List Json → List (List Token)
  | [] => []
  | item :: items => tokens item :: itemTokens items

def memberTokens : List (String × Json) → List (List Token)
  | [] => []
  | (name, value) :: members => (.scalar (.text name) :: .colon :: tokens value) :: memberTokens members

def isFinite : Json → Bool
  | .float x => x.isFinite
  | .array items => areFinite items
  | .object members => valuesFinite members
  | _ => true

def areFinite : List Json → Bool
  | [] => true
  | item :: items => isFinite item && areFinite items

def valuesFinite : List (String × Json) → Bool
  | [] => true
  | (_, value) :: members => isFinite value && valuesFinite members

end

theorem Lexes.separated {parts : List (List Char)} {tokenParts : List (List Token)}
    (each : List.Forall₂ Lexes parts tokenParts) {c : Char} {more : List Char} {others : List Token} (stop : isNumeric c = false ∧ c.isAlpha = false)
    (last : Lexes (c :: more) others) : Lexes (commaSeparated parts ++ c :: more) (commaTokens tokenParts ++ others) := by
  induction each with
  | nil => exact last
  | @cons part tokenPart parts tokenParts front rest ih =>
    cases rest with
    | nil => exact front.append stop last
    | cons second rest =>
      have back := Lexes.mark (c := ',') rfl (fun _ => rfl) ih
      simpa [commaSeparated, commaTokens] using front.append ⟨rfl, rfl⟩ back

theorem Lexes.quoted (s : String) {more : List Char} {tokens : List Token} (others : Lexes more tokens) :
    Lexes (quotedChars s ++ more) (.scalar (.text s) :: tokens) := by
  refine Lexes.first (c := '"') rfl (fun rest => ?_) others
  have read := string?_flatMap s.toList rest
  simp [token?, read]

theorem Stops.isAlpha {rest : List Char} (stops : Stops rest) : ∀ c ∈ rest.head?, c.isAlpha = false :=
  fun c first => (stops c first).2

theorem Stops.isNumeric {rest : List Char} (stops : Stops rest) : ∀ c ∈ rest.head?, Json.isNumeric c = false :=
  fun c first => (stops c first).1

theorem lexes_word (c : Char) (letters : List Char) {word : Json} (visible : isSpace c = false)
    (begins : ∀ rest, token? c rest =
      (word? (c :: rest.takeWhile Char.isAlpha)).map fun word => (.scalar word, rest.dropWhile Char.isAlpha))
    (alphabetic : ∀ letter ∈ letters, letter.isAlpha) (known : word? (c :: letters) = some word) :
    Lexes (c :: letters) [.scalar word] := by
  refine Lexes.single visible fun rest stops => ?_
  obtain ⟨taken, dropped⟩ := takeWhile_append_stop alphabetic stops.isAlpha
  rw [begins, taken, dropped, known]
  rfl

theorem lexes_null : Lexes "null".toList [.scalar .null] :=
  lexes_word 'n' ['u', 'l', 'l'] rfl (fun _ => rfl) (by simp) rfl

theorem lexes_true : Lexes "true".toList [.scalar (.bool true)] :=
  lexes_word 't' ['r', 'u', 'e'] rfl (fun _ => rfl) (by simp) rfl

theorem lexes_false : Lexes "false".toList [.scalar (.bool false)] :=
  lexes_word 'f' ['a', 'l', 's', 'e'] rfl (fun _ => rfl) (by simp) rfl

theorem isSpace_of_begins {c : Char} (begins : c = '-' ∨ c.isDigit) : isSpace c = false := by
  rcases begins with rfl | digit
  · rfl
  · simp only [isSpace, Bool.or_eq_false_iff, beq_eq_false_iff_ne]
    refine ⟨⟨⟨?_, ?_⟩, ?_⟩, ?_⟩ <;> rintro rfl <;> simp at digit

theorem token?_number {c : Char} (begins : c = '-' ∨ c.isDigit) (rest : List Char) :
    token? c rest =
      (number? (c :: rest.takeWhile isNumeric)).map fun number => (.scalar number, rest.dropWhile isNumeric) := by
  have other (d : Char) (noSign : '-' ≠ d) (noDigit : d.isDigit = false) : c ≠ d := by
    rintro rfl
    rcases begins with sign | digit
    · exact noSign sign.symm
    · exact absurd digit (by simp [noDigit])
  simp only [token?, if_neg (other '[' (by decide) rfl), if_neg (other ']' (by decide) rfl),
    if_neg (other '\x7b' (by decide) rfl), if_neg (other '\x7d' (by decide) rfl), if_neg (other ',' (by decide) rfl),
    if_neg (other ':' (by decide) rfl), if_neg (other '"' (by decide) rfl), if_pos begins]

theorem lexes_number {text : List Char} {json : Json} (reads : number? text = some json) : Lexes text [.scalar json] := by
  have isNumber := isNumber_of_number? reads
  obtain ⟨first, more, rfl, begins⟩ := isNumber.exists_cons
  have numeric := List.forall_mem_cons.mp isNumber.isNumeric
  refine Lexes.single (isSpace_of_begins begins) fun rest stops => ?_
  obtain ⟨taken, dropped⟩ := takeWhile_append_stop numeric.2 stops.isNumeric
  rw [token?_number begins, taken, dropped, reads]
  rfl

mutual

theorem lexes_chars : (json : Json) → json.isFinite → Lexes json.chars json.tokens
  | .null, _ => lexes_null
  | .bool true, _ => lexes_true
  | .bool false, _ => lexes_false
  | .integer i, _ => lexes_number (number?_integer i)
  | .float _, finite => lexes_number (number?_text finite)
  | .text s, _ => by
    have quoted := Lexes.quoted s .nil
    rwa [List.append_nil] at quoted
  | .array items, finite => by
    have last : Lexes [']'] [.closeArray] := .mark rfl (fun _ => rfl) .nil
    exact .mark rfl (fun _ => rfl) (Lexes.separated (lexes_itemChars items finite) ⟨rfl, rfl⟩ last)
  | .object members, finite => by
    have last : Lexes ['\x7d'] [.closeObject] := .mark rfl (fun _ => rfl) .nil
    exact .mark rfl (fun _ => rfl) (Lexes.separated (lexes_memberChars members finite) ⟨rfl, rfl⟩ last)

theorem lexes_itemChars : (items : List Json) → areFinite items → List.Forall₂ Lexes (itemChars items) (itemTokens items)
  | [], _ => .nil
  | item :: items, finite => by
    rw [areFinite, Bool.and_eq_true] at finite
    exact .cons (lexes_chars item finite.1) (lexes_itemChars items finite.2)

theorem lexes_memberChars : (members : List (String × Json)) → valuesFinite members →
    List.Forall₂ Lexes (memberChars members) (memberTokens members)
  | [], _ => .nil
  | (name, value) :: members, finite => by
    rw [valuesFinite, Bool.and_eq_true] at finite
    exact .cons (.quoted name (.mark rfl (fun _ => rfl) (lexes_chars value finite.1)))
      (lexes_memberChars members finite.2)

end

mutual

def depth : Json → Nat
  | .array items => depthOfItems items + 1
  | .object members => depthOfValues members + 1
  | _ => 0

def depthOfItems : List Json → Nat
  | [] => 0
  | item :: items => max (depth item) (depthOfItems items)

def depthOfValues : List (String × Json) → Nat
  | [] => 0
  | (_, value) :: members => max (depth value) (depthOfValues members)

end

namespace Reader

def readAll (reader : Reader) (tokens : List Token) : Option Reader := tokens.foldlM step? reader

theorem readAll_cons (reader : Reader) (token : Token) (tokens : List Token) :
    reader.readAll (token :: tokens) = (reader.step? token).bind (·.readAll tokens) := List.foldlM_cons

theorem readAll_append (reader : Reader) (tokens others : List Token) :
    reader.readAll (tokens ++ others) = (reader.readAll tokens).bind (·.readAll others) := List.foldlM_append

-- A reader that waits for a value, perhaps the first of an array.
inductive AtValue : Reader → List Frame → Prop
  | value (frames : List Frame) : AtValue ⟨frames, .value⟩ frames
  | first (frames : List Frame) : AtValue ⟨.array [] :: frames, .itemOrEnd⟩ (.array [] :: frames)

theorem AtValue.step?_eq {reader : Reader} {frames : List Frame} (atValue : AtValue reader frames) (token : Token)
    (noEnd : token ≠ .closeArray) : reader.step? token = begin? frames token := by
  cases atValue with
  | value => rfl
  | first =>
    cases token with
    | closeArray => exact absurd rfl noEnd
    | _ => rfl

theorem AtValue.readAll_scalar {reader : Reader} {frames : List Frame} (atValue : AtValue reader frames) (value : Json) :
    reader.readAll [.scalar value] = some ⟨frames, .rest value⟩ := by
  rw [readAll_cons, atValue.step?_eq (.scalar value) nofun]
  rfl

inductive AtName : Reader → List (String × Json) → List Frame → Prop
  | name (members : List (String × Json)) (frames : List Frame) : AtName ⟨.object members :: frames, .name⟩ members frames
  | first (frames : List Frame) : AtName ⟨.object [] :: frames, .nameOrEnd⟩ [] frames

theorem AtName.readAll_cons {reader : Reader} {members : List (String × Json)} {frames : List Frame}
    (atName : AtName reader members frames) (name : String) (tokens : List Token) :
    reader.readAll (.scalar (.text name) :: .colon :: tokens) =
      readAll ⟨.member members name :: frames, .value⟩ tokens := by
  cases atName with
  | name => rfl
  | first => rfl

mutual

-- A value is put together out of its tokens, with what was open before it as it was.
theorem readAll_tokens : (json : Json) → (frames : List Frame) → frames.length + json.depth ≤ maxDepth →
    (reader : Reader) → AtValue reader frames → reader.readAll json.tokens = some ⟨frames, .rest json⟩
  | .null, _, _, _, atValue => atValue.readAll_scalar .null
  | .bool b, _, _, _, atValue => atValue.readAll_scalar (.bool b)
  | .integer i, _, _, _, atValue => atValue.readAll_scalar (.integer i)
  | .float x, _, _, _, atValue => atValue.readAll_scalar (.float x)
  | .text s, _, _, _, atValue => atValue.readAll_scalar (.text s)
  | .array items, frames, fits, reader, atValue => by
    have opened : reader.step? .openArray = some ⟨.array [] :: frames, .itemOrEnd⟩ := by
      rw [depth] at fits
      rw [atValue.step?_eq .openArray nofun, begin?, if_pos (by omega)]
    rw [tokens, readAll_cons, opened, Option.bind_some]
    cases items with
    | nil => rfl
    | cons item items =>
      rw [depth] at fits
      exact readAll_itemTokens (item :: items) [] frames (by omega) nofun _ (.first frames)
  | .object members, frames, fits, reader, atValue => by
    have opened : reader.step? .openObject = some ⟨.object [] :: frames, .nameOrEnd⟩ := by
      rw [depth] at fits
      rw [atValue.step?_eq .openObject nofun, begin?, if_pos (by omega)]
    rw [tokens, readAll_cons, opened, Option.bind_some]
    cases members with
    | nil => rfl
    | cons member members =>
      rw [depth] at fits
      exact readAll_memberTokens (member :: members) [] frames (by omega) nofun _ (.first frames)

theorem readAll_itemTokens : (items : List Json) → (read : List Json) → (frames : List Frame) →
    frames.length + 1 + depthOfItems items ≤ maxDepth → items ≠ [] → (reader : Reader) →
    AtValue reader (.array read :: frames) →
    reader.readAll (commaTokens (itemTokens items) ++ [.closeArray]) =
      some ⟨frames, .rest (.array (read.reverse ++ items))⟩
  | [], _, _, _, nonempty, _, _ => absurd rfl nonempty
  | item :: items, read, frames, fits, _, reader, atValue => by
    rw [depthOfItems] at fits
    have first := readAll_tokens item (.array read :: frames) (by rw [List.length_cons]; omega) reader atValue
    cases items with
    | nil =>
      rw [itemTokens, itemTokens, commaTokens, readAll_append, first, Option.bind_some, readAll_cons]
      simp [step?, continue?, readAll]
    | cons next items =>
      have others := readAll_itemTokens (next :: items) (item :: read) frames (by omega) nofun _ (.value _)
      rw [itemTokens, itemTokens, commaTokens_cons_cons, List.append_assoc, readAll_append, first, Option.bind_some,
        List.cons_append, readAll_cons]
      simpa [itemTokens, step?, continue?] using others

theorem readAll_memberTokens : (members : List (String × Json)) → (read : List (String × Json)) → (frames : List Frame) →
    frames.length + 1 + depthOfValues members ≤ maxDepth → members ≠ [] → (reader : Reader) →
    AtName reader read frames →
    reader.readAll (commaTokens (memberTokens members) ++ [.closeObject]) =
      some ⟨frames, .rest (.object (read.reverse ++ members))⟩
  | [], _, _, _, nonempty, _, _ => absurd rfl nonempty
  | (name, value) :: members, read, frames, fits, _, reader, atName => by
    rw [depthOfValues] at fits
    have first := readAll_tokens value (.member read name :: frames) (by rw [List.length_cons]; omega) _ (.value _)
    cases members with
    | nil =>
      rw [memberTokens, memberTokens, commaTokens, List.cons_append, List.cons_append, atName.readAll_cons, readAll_append,
        first, Option.bind_some, readAll_cons]
      simp [step?, continue?, readAll]
    | cons next members =>
      obtain ⟨nextName, nextValue⟩ := next
      have others := readAll_memberTokens ((nextName, nextValue) :: members) ((name, value) :: read) frames (by omega) nofun
        _ (.name _ _)
      rw [memberTokens, memberTokens, commaTokens_cons_cons, List.append_assoc, List.cons_append, List.cons_append,
        atName.readAll_cons, readAll_append, first, Option.bind_some, List.cons_append, readAll_cons]
      simpa [memberTokens, step?, continue?] using others

end

end Reader

theorem ofTokens?_tokens {json : Json} (shallow : json.depth ≤ Reader.maxDepth) : ofTokens? json.tokens = some json := by
  have read := Reader.readAll_tokens json [] (by simpa using shallow) _ (.value [])
  exact congrArg (Option.bind · Reader.result?) read

theorem ofChars?_chars {json : Json} (finite : json.isFinite) (shallow : json.depth ≤ Reader.maxDepth) :
    ofChars? json.chars = some json := by
  rw [ofChars?, (lexes_chars json finite).tokens?_eq]
  exact ofTokens?_tokens shallow

end DeltaQuery.Json
