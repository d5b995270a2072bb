import DeltaQuery.Proofs.JsonGrammar

namespace DeltaQuery.Json

inductive Position
  | outside
  | quoted
  | escaped

structure Scan where
  position : Position
  depth : Int

namespace Scan

def step (scan : Scan) (c : Char) : Scan :=
  match scan.position with
  | .outside =>
    if c = '"' then { scan with position := .quoted }
    else if c = '[' ∨ c = '\x7b' then { scan with depth := scan.depth + 1 }
    else if c = ']' ∨ c = '\x7d' then { scan with depth := scan.depth - 1 }
    else scan
  | .quoted =>
    if c = '"' then { scan with position := .outside }
    else if c = '\\' then { scan with position := .escaped }
    else scan
  | .escaped => { scan with position := .quoted }

def run (scan : Scan) (text : List Char) : Scan := text.foldl step scan

-- A scan of a text that goes from one place to another with this many brackets open all the time.
inductive Path (least : Int) : Scan → List Char → Scan → Prop
  | nil {scan : Scan} (deep : least ≤ scan.depth) : Path least scan [] scan
  | cons {scan last : Scan} {c : Char} {text : List Char} (deep : least ≤ scan.depth)
      (rest : Path least (scan.step c) text last) : Path least scan (c :: text) last

namespace Path

variable {least lower : Int} {scan middle last : Scan} {text more : List Char}

theorem append (path : Path least scan text middle) (others : Path least middle more last) :
    Path least scan (text ++ more) last := by
  induction path with
  | nil => exact others
  | cons deep _ ih => exact .cons deep (ih others)

theorem mono (path : Path least scan text last) (le : lower ≤ least) : Path lower scan text last := by
  induction path with
  | nil deep => exact .nil (Int.le_trans le deep)
  | cons deep _ ih => exact .cons (Int.le_trans le deep) ih

theorem run_eq (path : Path least scan text last) : scan.run text = last := by
  induction path with
  | nil => rfl
  | cons _ _ ih => exact ih

theorem le_depth_of_isPrefix (path : Path least scan text last) {front : List Char} (inside : front <+: text) :
    least ≤ (scan.run front).depth := by
  induction path generalizing front with
  | nil deep =>
    rw [List.prefix_nil.mp inside]
    exact deep
  | @cons scan last c text deep _ ih =>
    cases front with
    | nil => exact deep
    | cons first front =>
      obtain ⟨rfl, others⟩ := List.cons_prefix_cons.mp inside
      exact ih others

end Path

def outside (depth : Int) : Scan := ⟨.outside, depth⟩
def quoted (depth : Int) : Scan := ⟨.quoted, depth⟩

def marks : List Char := ['"', '[', ']', '\x7b', '\x7d']

theorem step_plain {c : Char} (plain : c ∉ marks) (depth : Int) : (outside depth).step c = outside depth := by
  simp only [marks, List.mem_cons, List.not_mem_nil, or_false, not_or] at plain
  simp [step, outside, plain]

def Balanced (text : List Char) : Prop := ∀ depth, Path depth (outside depth) text (outside depth)

theorem Balanced.append {text more : List Char} (front : Balanced text) (back : Balanced more) : Balanced (text ++ more) :=
  fun depth => (front depth).append (back depth)

theorem balanced_plain {text : List Char} (plain : ∀ c ∈ text, c ∉ marks) : Balanced text := by
  intro depth
  induction text with
  | nil => exact .nil (Int.le_refl _)
  | cons c text ih =>
    obtain ⟨here, others⟩ := List.forall_mem_cons.mp plain
    refine .cons (Int.le_refl _) ?_
    rw [step_plain here]
    exact ih others

theorem Balanced.bracketed {text : List Char} (inside : Balanced text) {opening closing : Char}
    (pair : (opening, closing) ∈ [('[', ']'), ('\x7b', '\x7d')]) : Balanced (opening :: (text ++ [closing])) := by
  intro depth
  have opened : (outside depth).step opening = outside (depth + 1) := by
    simp only [List.mem_cons, List.not_mem_nil, or_false, Prod.mk.injEq] at pair
    rcases pair with ⟨rfl, rfl⟩ | ⟨rfl, rfl⟩ <;> rfl
  have closed : (outside (depth + 1)).step closing = outside depth := by
    simp only [List.mem_cons, List.not_mem_nil, or_false, Prod.mk.injEq] at pair
    rcases pair with ⟨rfl, rfl⟩ | ⟨rfl, rfl⟩ <;> simp [step, outside]
  refine .cons (Int.le_refl _) ?_
  rw [opened]
  have below : depth ≤ depth + 1 := by omega
  refine ((inside (depth + 1)).mono below).append (.cons below ?_)
  rw [closed]
  exact .nil (Int.le_refl _)

theorem path_quoted {text : List Char} (all : ∀ c ∈ text, c ≠ '"' ∧ c ≠ '\\') (depth : Int) :
    Path depth (quoted depth) text (quoted depth) := by
  induction text with
  | nil => exact .nil (Int.le_refl _)
  | cons c text ih =>
    obtain ⟨⟨noQuote, noEscape⟩, others⟩ := List.forall_mem_cons.mp all
    have stays : (quoted depth).step c = quoted depth := by simp [step, quoted, noQuote, noEscape]
    refine .cons (Int.le_refl _) ?_
    rw [stays]
    exact ih others

theorem path_escape {c : Char} {text : List Char} (all : ∀ c ∈ text, c ≠ '"' ∧ c ≠ '\\') (depth : Int) :
    Path depth (quoted depth) ('\\' :: c :: text) (quoted depth) :=
  .cons (Int.le_refl depth) (.cons (Int.le_refl depth) (path_quoted all depth))

theorem path_unit {part : List Char} (isUnit : IsUnit part) (depth : Int) :
    Path depth (quoted depth) part (quoted depth) := by
  cases isUnit with
  | plain _ noQuote noEscape => exact path_quoted (List.forall_mem_singleton.mpr ⟨noQuote, noEscape⟩) depth
  | escape => exact path_escape (by simp) depth
  | hex _ all =>
    refine path_escape (fun c member => ?_) depth
    have hexadecimal := all c member
    constructor <;> rintro rfl <;> simp [isHexDigit] at hexadecimal

theorem balanced_string {text : List Char} (isString : IsString text) : Balanced text := by
  intro depth
  obtain @⟨units, each⟩ := isString
  have inside : Path depth (quoted depth) units.flatten (quoted depth) := by
    induction units with
    | nil => exact .nil (Int.le_refl _)
    | cons part units ih =>
      obtain ⟨here, others⟩ := List.forall_mem_cons.mp each
      exact (path_unit here depth).append (ih others)
  exact .cons (Int.le_refl depth) (inside.append (.cons (Int.le_refl depth) (.nil (Int.le_refl depth))))

theorem balanced_commaSeparated {parts : List (List Char)} (each : ∀ part ∈ parts, Balanced part) :
    Balanced (commaSeparated parts) := by
  induction parts with
  | nil => exact balanced_plain nofun
  | cons part parts ih =>
    obtain ⟨here, others⟩ := List.forall_mem_cons.mp each
    cases parts with
    | nil => exact here
    | cons next parts =>
      have comma : Balanced [','] := balanced_plain (by simp [marks])
      exact here.append (comma.append (ih others))

theorem balanced_blank {text : List Char} (isBlank : IsBlank text) : Balanced text := by
  have none : ∀ mark ∈ marks, isSpace mark = false := by simp [marks, isSpace]
  refine balanced_plain fun c member mark => ?_
  exact absurd (isBlank c member) (by simp [none c mark])

theorem balanced_number {text : List Char} (isNumber : IsNumber text) : Balanced text := by
  have none : ∀ mark ∈ marks, isNumeric mark = false := by simp [marks, isNumeric]
  refine balanced_plain fun c member mark => ?_
  exact absurd (isNumber.isNumeric c member) (by simp [none c mark])

theorem balanced_text {text : List Char} (isText : IsText text) : Balanced text := by
  induction isText with
  | null => exact balanced_plain (by simp [marks])
  | true => exact balanced_plain (by simp [marks])
  | false => exact balanced_plain (by simp [marks])
  | number isNumber => exact balanced_number isNumber
  | string isString => exact balanced_string isString
  | emptyArray isBlank => exact (balanced_blank isBlank).bracketed (by simp)
  | array _ _ each => exact (balanced_commaSeparated each).bracketed (by simp)
  | emptyObject isBlank => exact (balanced_blank isBlank).bracketed (by simp)
  | object _ names _ values =>
    refine (balanced_commaSeparated (List.forall_mem_map.mpr fun member inside => ?_)).bracketed (by simp)
    obtain ⟨before, name, after, isBefore, isName, isAfter, same⟩ := names member inside
    have colon : Balanced [':'] := balanced_plain (by simp [marks])
    have named : Balanced member.1 := by
      rw [same]
      exact ((balanced_blank isBefore).append (balanced_string isName)).append (balanced_blank isAfter)
    exact named.append (colon.append (values member inside))
  | spaced isBefore _ isAfter ih => exact ((balanced_blank isBefore).append ih).append (balanced_blank isAfter)

end Scan

theorem IsText.ne_nil {text : List Char} (isText : IsText text) : text ≠ [] := by
  induction isText with
  | number isNumber =>
    obtain ⟨first, more, rfl, _⟩ := isNumber.exists_cons
    exact List.cons_ne_nil _ _
  | string isString =>
    obtain @⟨units, each⟩ := isString
    exact List.cons_ne_nil _ _
  | spaced _ _ _ ih => simp [ih]
  | _ => exact List.cons_ne_nil _ _

-- A text leaves the count of open brackets as it was and never takes it lower on the way, so the front of an array is
-- no text without the bracket that closes it.
theorem not_isText_of_isPrefix {parts : List (List Char)} (each : ∀ part ∈ parts, Scan.Balanced part) {front : List Char}
    (inside : front <+: '[' :: commaSeparated parts) : ¬IsText front := by
  intro isText
  obtain ⟨first, front, rfl⟩ := List.exists_cons_of_ne_nil isText.ne_nil
  obtain ⟨rfl, within⟩ := List.cons_prefix_cons.mp inside
  have ends : (Scan.outside 0).run ('[' :: front) = Scan.outside 0 := (Scan.balanced_text isText 0).run_eq
  have open_ : 1 ≤ ((Scan.outside 1).run front).depth :=
    (Scan.balanced_commaSeparated each 1).le_depth_of_isPrefix within
  have same : (Scan.outside 0).run ('[' :: front) = (Scan.outside 1).run front := rfl
  rw [← same, ends] at open_
  exact absurd open_ (by decide)

end DeltaQuery.Json
