import DeltaQuery.ByName
import Mathlib.Data.List.Forall2

namespace DeltaQuery.ByName

variable {α : Type}

theorem compare_eq_lt {name other : String} : compare name other = .lt ↔ name < other := compareOfLessAndEq_eq_lt

theorem compare_eq_gt {name other : String} : compare name other = .gt ↔ other < name :=
  compareOfLessAndEq_eq_gt String.le_antisymm String.le_total String.not_le _ _

theorem lookup_cons (name other : String) (value : α) (entries : List (String × α)) :
    ((name, value) :: entries).lookup other = if other = name then some value else entries.lookup other := by
  rw [List.lookup_cons]
  by_cases same : other = name
  · rw [if_pos same, beq_iff_eq.mpr same]
  · rw [if_neg same, beq_false_of_ne same]

theorem mem_names_iff_lookup {name : String} {entries : List (String × α)} :
    name ∈ entries.map (·.1) ↔ (entries.lookup name).isSome := by
  rw [List.lookup_isSome_iff, List.mem_map]
  simp only [beq_iff_eq, @eq_comm _ name]

theorem lookup_put (name other : String) (value : α) (entries : List (String × α)) :
    (put name value entries).lookup other = if other = name then some value else entries.lookup other := by
  induction entries with
  | nil =>
    rw [put, lookup_cons]
  | cons entry entries ih =>
    obtain ⟨held, old⟩ := entry
    rw [put]
    cases order : compare name held with
    | lt =>
      dsimp only
      rw [lookup_cons]
    | eq =>
      have equal : name = held := Std.LawfulEqOrd.eq_of_compare order
      subst equal
      dsimp only
      rw [lookup_cons, lookup_cons]
      by_cases same : other = name
      · rw [if_pos same, if_pos same]
      · rw [if_neg same, if_neg same, if_neg same]
    | gt =>
      have apart : held ≠ name := by
        rintro rfl
        rw [Std.LawfulEqOrd.compare_eq_iff_eq.mpr rfl] at order
        cases order
      dsimp only
      rw [lookup_cons, lookup_cons, ih]
      by_cases here : other = held
      · rw [if_pos here, if_pos here, if_neg fun same => apart (here.symm.trans same)]
      · rw [if_neg here, if_neg here]

-- The last entry is put in last, so it is the first of the reversed list that counts.
theorem sorted_eq_foldr (entries : List (String × α)) :
    sorted entries = entries.reverse.foldr (fun entry held => put entry.1 entry.2 held) [] := by
  rw [List.foldr_reverse]
  rfl

theorem lookup_sorted (entries : List (String × α)) (name : String) :
    (sorted entries).lookup name = entries.reverse.lookup name := by
  rw [sorted_eq_foldr]
  induction entries.reverse with
  | nil => rfl
  | cons entry earlier ih => rw [List.foldr_cons, lookup_put, ih, lookup_cons]

def Ascending (entries : List (String × α)) : Prop := entries.Pairwise fun entry later => entry.1 < later.1

theorem mem_put {name : String} {value : α} {entries : List (String × α)} {entry : String × α}
    (member : entry ∈ put name value entries) : entry = (name, value) ∨ entry ∈ entries := by
  induction entries with
  | nil => exact .inl (List.mem_singleton.mp member)
  | cons first rest ih =>
    rw [put] at member
    split at member
    · exact List.mem_cons.mp member
    · exact (List.mem_cons.mp member).imp_right (List.mem_cons_of_mem _)
    · rcases List.mem_cons.mp member with here | later
      · exact .inr (List.mem_cons.mpr (.inl here))
      · exact (ih later).imp_right (List.mem_cons_of_mem _)

theorem Ascending.put (name : String) (value : α) {entries : List (String × α)} (ascending : Ascending entries) :
    Ascending (put name value entries) := by
  induction entries with
  | nil => exact List.pairwise_singleton _ _
  | cons first rest ih =>
    obtain ⟨above, others⟩ := List.pairwise_cons.mp ascending
    rw [ByName.put]
    split
    next less =>
      have below := compare_eq_lt.mp less
      exact List.pairwise_cons.mpr ⟨List.forall_mem_cons.mpr ⟨below, fun entry member =>
        String.lt_trans below (above entry member)⟩, ascending⟩
    next same =>
      obtain rfl := Std.LawfulEqOrd.eq_of_compare same
      exact List.pairwise_cons.mpr ⟨above, others⟩
    next greater =>
      refine List.pairwise_cons.mpr ⟨fun entry member => ?_, ih others⟩
      rcases mem_put member with rfl | held
      · exact compare_eq_gt.mp greater
      · exact above entry held

theorem ascending_sorted (entries : List (String × α)) : Ascending (sorted entries) := by
  rw [sorted_eq_foldr]
  induction entries.reverse with
  | nil => exact List.Pairwise.nil
  | cons entry earlier ih => exact ih.put entry.1 entry.2

theorem Ascending.name_le {entry : String × α} {rest : List (String × α)} (ascending : Ascending (entry :: rest))
    {name : String} {value : α} (found : (entry :: rest).lookup name = some value) : entry.1 ≤ name := by
  have inside : name ∈ (entry :: rest).map (·.1) := mem_names_iff_lookup.mpr (by rw [found]; rfl)
  rcases List.mem_cons.mp inside with rfl | later
  · exact String.le_refl _
  · obtain ⟨other, member, rfl⟩ := List.mem_map.mp later
    have above := (List.pairwise_cons.mp ascending).1 other member
    exact String.not_lt.mp fun below => String.lt_irrefl _ (String.lt_trans above below)

theorem Ascending.lookup_tail {entry : String × α} {rest : List (String × α)} (ascending : Ascending (entry :: rest)) :
    rest.lookup entry.1 = none := by
  refine Option.not_isSome_iff_eq_none.mp fun found => ?_
  obtain ⟨other, member, same⟩ := List.mem_map.mp (mem_names_iff_lookup.mpr found)
  exact String.lt_irrefl _ (same ▸ (List.pairwise_cons.mp ascending).1 other member)

-- Each entry beside the one of its name with the value that is made of it, if one can be made.
def Converts {β : Type} (f : α → Option β) (fields : List (String × α)) (columns : List (String × β)) : Prop :=
  List.Forall₂ (fun field column => column.1 = field.1 ∧ f field.2 = some column.2) fields columns

section Converts

variable {β : Type} {f : α → Option β} {fields : List (String × α)} {columns : List (String × β)}

theorem Converts.lookup (converts : Converts f fields columns) (name : String) :
    (columns.lookup name).map some = (fields.lookup name).map f := by
  induction converts with
  | nil => rfl
  | @cons field column _ _ made _ ih =>
    rw [lookup_cons, lookup_cons, made.1]
    split
    · exact congrArg some made.2.symm
    · exact ih

theorem Converts.names (converts : Converts f fields columns) : columns.map (·.1) = fields.map (·.1) := by
  induction converts with
  | nil => rfl
  | cons made _ ih => rw [List.map_cons, List.map_cons, made.1, ih]

theorem Converts.ascending (converts : Converts f fields columns) (ascending : Ascending fields) : Ascending columns := by
  have names := List.pairwise_map.mpr ascending
  rw [← converts.names] at names
  exact List.pairwise_map.mp names

-- By induction on the entries: the first two have one name, as each is the least of its list.
theorem Ascending.converts (ascending : Ascending fields) (columnsAscending : Ascending columns)
    (same : ∀ name, (columns.lookup name).map some = (fields.lookup name).map f) : Converts f fields columns := by
  induction fields generalizing columns with
  | nil =>
    cases columns with
    | nil => exact .nil
    | cons column columns => simpa [lookup_cons] using same column.1
  | cons field fields ih =>
    have first := same field.1
    rw [@lookup_cons _ field.1, if_pos rfl] at first
    cases columns with
    | nil => cases first
    | cons column columns =>
      obtain ⟨value, found, made⟩ := Option.map_eq_some_iff.mp first
      have back := same column.1
      rw [@lookup_cons _ column.1, if_pos rfl] at back
      obtain ⟨_, backFound, _⟩ := Option.map_eq_some_iff.mp back.symm
      have named := String.le_antisymm (columnsAscending.name_le found) (ascending.name_le backFound)
      rw [lookup_cons, if_pos named.symm] at found
      cases found
      refine .cons ⟨named, made.symm⟩
        (ih (List.pairwise_cons.mp ascending).2 (List.pairwise_cons.mp columnsAscending).2 fun name => ?_)
      by_cases here : name = field.1
      · subst here
        rw [ascending.lookup_tail, ← named, columnsAscending.lookup_tail]
        rfl
      · have there := same name
        rwa [lookup_cons, lookup_cons, if_neg here, if_neg (named ▸ here)] at there

end Converts

theorem put_of_above {name : String} (value : α) {entries : List (String × α)}
    (above : ∀ entry ∈ entries, entry.1 < name) : put name value entries = entries ++ [(name, value)] := by
  induction entries with
  | nil => rfl
  | cons first rest ih =>
    obtain ⟨here, others⟩ := List.forall_mem_cons.mp above
    rw [put, compare_eq_gt.mpr here, ih others]
    rfl

theorem sorted_of_ascending {entries : List (String × α)} (ascending : Ascending entries) : sorted entries = entries := by
  have descending := List.pairwise_reverse.mpr ascending
  suffices folded : entries.reverse.foldr (fun entry held => put entry.1 entry.2 held) [] = entries.reverse.reverse by
    rw [sorted_eq_foldr, folded, List.reverse_reverse]
  generalize entries.reverse = backwards at descending
  induction backwards with
  | nil => rfl
  | cons entry earlier ih =>
    obtain ⟨above, others⟩ := List.pairwise_cons.mp descending
    rw [List.foldr_cons, ih others, put_of_above _ fun entry member => above entry (List.mem_reverse.mp member),
      List.reverse_cons]

theorem put_map {β : Type} (f : α → β) (name : String) (value : α) (entries : List (String × α)) :
    put name (f value) (entries.map fun (name, value) => (name, f value)) =
      (put name value entries).map fun (name, value) => (name, f value) := by
  induction entries with
  | nil => rfl
  | cons first rest ih =>
    simp only [List.map_cons, put]
    split <;> simp [ih]

theorem sorted_map {β : Type} (f : α → β) (entries : List (String × α)) :
    sorted (entries.map fun (name, value) => (name, f value)) = (sorted entries).map fun (name, value) => (name, f value) := by
  rw [sorted_eq_foldr, sorted_eq_foldr, ← List.map_reverse, List.foldr_map]
  induction entries.reverse with
  | nil => rfl
  | cons entry earlier ih =>
    rw [List.foldr_cons, List.foldr_cons, ih]
    exact put_map f entry.1 entry.2 _

end DeltaQuery.ByName
