import DeltaQuery.Proofs.ExactSums
import DeltaQuery.Proofs.LiveCount
import DeltaQuery.Proofs.RefusedCalls

namespace DeltaQuery

-- Of changes that are made one after the other, those that bring a value in or take its last copy away.
def Account.transitions (account : Account) : List Change → List Change
  | [] => []
  | change :: changes =>
    (if account.passes change then [change] else []) ++ (account.take change).transitions changes

namespace Accumulator

variable {accumulator inside last : Accumulator} {copies : LiveValues} {account : Account} {ledger : Ledger}
variable {change : Change} {changes : List Change} {value : Value} {cause : Cause}

theorem Keeps.call (keeps : accumulator.Keeps account) (accepted : (accumulator.call (Change.call change)).result = .ok ()) :
    (accumulator.call (Change.call change)).state.Keeps (account.take change) := by
  obtain ⟨kind, value⟩ := change
  cases kind with
  | insert => exact keeps.incorporate ((incorporate_follows value accumulator).result.symm.trans accepted)
  | retract => exact (keeps.undo ((undo_follows value accumulator).result.symm.trans accepted)).2

theorem Keeps.counts (keeps : Keeps (.distinct copies inside) account) : copies.Holds account.all.held := by
  cases keeps with
  | plain holds => exact holds.elim
  | distinct counts holds hasDistinct => exact counts

theorem Keeps.call_distinct (keeps : Keeps (.distinct copies inside) account)
    (accepted : ((Accumulator.distinct copies inside).call (Change.call change)).result = .ok ()) :
    ∃ left, ((Accumulator.distinct copies inside).call (Change.call change)).state =
        .distinct left (if account.passes change then (inside.call (Change.call change)).state else inside) ∧
      (account.passes change = true → (inside.call (Change.call change)).result = .ok ()) := by
  obtain ⟨kind, value⟩ := change
  have counted := keeps.counts.multiplicity value
  cases kind with
  | insert =>
    have check := (incorporate_follows value (.distinct copies inside)).result.symm.trans accepted
    by_cases absent : copies.multiplicity value = 0
    · have passes : account.passes (.insert, value) = true := beq_iff_eq.mpr (counted.symm.trans absent)
      rw [checkIncorporate, if_pos absent] at check
      rw [passes]
      exact ⟨_, incorporate_new absent check, fun _ => (incorporate_follows value inside).ok check⟩
    · have passes : account.passes (.insert, value) = false := beq_false_of_ne (counted ▸ absent)
      rw [passes]
      exact ⟨_, incorporate_again absent, fun passed => absurd passed Bool.false_ne_true⟩
  | retract =>
    have check := (undo_follows value (.distinct copies inside)).result.symm.trans accepted
    have present := multiplicity_of_checkUndo check
    by_cases last : copies.multiplicity value = 1
    · have passes : account.passes (.retract, value) = true := beq_iff_eq.mpr (counted.symm.trans last)
      rw [checkUndo_last last] at check
      rw [passes]
      exact ⟨_, undo_last last check, fun _ => (undo_follows value inside).ok check⟩
    · have passes : account.passes (.retract, value) = false := beq_false_of_ne (counted ▸ last)
      rw [passes]
      exact ⟨_, undo_copy (by omega), fun passed => absurd passed Bool.false_ne_true⟩

-- After any changes, what is inside has taken those that were passed on.
theorem Keeps.takes_transitions (keeps : Keeps (.distinct copies inside) account)
    (takes : Takes (.distinct copies inside) changes last) :
    ∃ left after, last = .distinct left after ∧ inside.Takes (account.transitions changes) after := by
  induction changes generalizing copies inside account with
  | nil =>
    cases takes
    exact ⟨copies, inside, rfl, .nothing⟩
  | cons change changes ih =>
    cases takes with
    | change accepted rest =>
      obtain ⟨left, step, passedOn⟩ := keeps.call_distinct accepted
      have kept := keeps.call accepted
      rw [step] at kept rest
      obtain ⟨final, after, same, later⟩ := ih kept rest
      refine ⟨final, after, same, ?_⟩
      rw [Account.transitions]
      cases passes : account.passes change with
      | false =>
        rw [passes] at later
        exact later
      | true =>
        rw [passes] at later
        exact .change (passedOn passes) later

def live? : Accumulator → Option LiveValues
  | .avg running => some running.live
  | .count live => some live
  | .sum running => some running.live
  | _ => none

theorem Holds.live? (holds : inside.Holds ledger) (hasDistinct : inside.aggregate.distinct ≠ inside.aggregate) :
    ∃ live, inside.live? = some live ∧ live.Holds ledger.held := by
  rcases holds.of_hasDistinct hasDistinct with ⟨live, rfl, counts⟩ | ⟨running, rfl | rfl, keeps⟩
  · exact ⟨live, rfl, counts⟩
  · exact ⟨running.live, rfl, keeps.live⟩
  · exact ⟨running.live, rfl, keeps.live⟩

-- A count gives every value back that it holds, and a sum or an average all but an integer without which the others
-- have no sum.
theorem Holds.checkUndo_refused (holds : inside.Holds ledger)
    (hasDistinct : inside.aggregate.distinct ≠ inside.aggregate) (held : value ∈ ledger.held)
    (refused : inside.checkUndo value = .error cause) :
    inside.aggregate ≠ .count ∧ ∃ i total, value = .int i ∧ cause = .sumOverflow .undo i total ∧
      total.toInt = integerTotal ledger.held ∧ ¬ FitsWord (integerTotal (ledger.held.erase value)) := by
  rcases holds.of_hasDistinct hasDistinct with ⟨live, rfl, counts⟩ | ⟨running, summing, keeps⟩
  · have present : ¬ live.multiplicity value = 0 := fun none => (counts.multiplicity_eq_zero_iff value).mp none held
    cases (if_neg present).symm.trans refused
  · have check : inside.checkUndo value = running.checkUndo value := by rcases summing with rfl | rfl <;> rfl
    obtain ⟨i, integer, overflow, unfit⟩ := keeps.checkUndo_refused held (check.symm.trans refused)
    refine ⟨?_, i, running.integers, integer, overflow, keeps.integers, unfit⟩
    intro counting
    rcases summing with rfl | rfl <;> cases counting

-- A distinct accumulator of live values: what it holds inside is the support of what it counts, and what it refuses.
structure OnSupport (copies : LiveValues) (inside : Accumulator) (live : List Value) : Prop where
  counted : ∀ value, copies.multiplicity value = live.count value
  once : ∃ held, inside.live? = some held ∧ held.size = live.dedup.length ∧
    ∀ value, held.multiplicity value = if 1 ≤ copies.multiplicity value then 1 else 0
  again : ∀ value, 1 ≤ copies.multiplicity value → ((distinct copies inside).incorporate value).result = .ok ()
  back : ∀ value cause, 1 ≤ copies.multiplicity value →
    ((distinct copies inside).undo value).result = .error cause →
      cause.kind ≠ .retraction ∧ copies.multiplicity value = 1 ∧ inside.aggregate ≠ .count ∧
        ∃ i total, value = .int i ∧ cause = .sumOverflow .undo i total ∧
          total.toInt = integerTotal live.dedup ∧ ¬ FitsWord (integerTotal (live.dedup.erase value))

theorem Keeps.onSupport (keeps : Keeps (.distinct copies inside) account) (sound : account.Sound) :
    OnSupport copies inside account.all.held := by
  cases keeps with
  | plain holds => exact holds.elim
  | distinct counts holds hasDistinct =>
    have held {value : Value} (present : 1 ≤ copies.multiplicity value) : value ∈ account.all.held :=
      mem_of_multiplicity counts (by omega)
    refine ⟨counts.multiplicity, ?_, ?_, ?_⟩
    · obtain ⟨once, same, holdsOnce⟩ := holds.live? hasDistinct
      refine ⟨once, same, holdsOnce.size.trans sound.perm.length_eq, ?_⟩
      intro value
      have here : value ∈ account.once.held ↔ 1 ≤ copies.multiplicity value := by
        rw [sound.member, counts.multiplicity, Nat.succ_le_iff, List.count_pos_iff]
      rw [holdsOnce.multiplicity, sound.nodup.count]
      simp only [here]
    · intro value present
      rw [(incorporate_follows value _).result, checkIncorporate, if_neg (by omega)]
    · intro value cause present refused
      rw [(undo_follows value _).result] at refused
      have last : copies.multiplicity value = 1 := by
        by_contra more
        cases (checkUndo_copy (by omega)).symm.trans refused
      rw [checkUndo_last last] at refused
      obtain ⟨summing, i, total, integer, overflow, sum, unfit⟩ :=
        holds.checkUndo_refused hasDistinct ((sound.member value).mpr (held present)) refused
      rw [integerTotal_perm sound.perm] at sum
      rw [integerTotal_perm (sound.perm.erase value)] at unfit
      refine ⟨?_, last, summing, i, total, integer, overflow, sum, unfit⟩
      rw [overflow]
      intro same
      cases same

-- After any calls, those that were refused among them, a distinct count, sum or average counts the copies of the live
-- values and holds each of them once inside, where a plain one is that has made the changes passed on and no others.
theorem distinct_on_support (strategy : ExtremumStrategy) (kind : Aggregate)
    (hasDistinct : kind = .count ∨ kind = .sum ∨ kind = .avg) (calls : List Call) :
    let accumulator := (fresh strategy kind.distinct).afterCalls calls
    let changes := (fresh strategy kind.distinct).accepted calls
    let live := heldAfter strategy kind.distinct calls
    let passedOn := Account.transitions {} changes
    (∀ value, live.count value + changes.count (.retract, value) = changes.count (.insert, value)) ∧
      ∃ copies inside, accumulator = .distinct copies inside ∧ OnSupport copies inside live ∧
        inside.aggregate = kind ∧ (fresh strategy kind).accepted (passedOn.map Change.call) = passedOn ∧
        (fresh strategy kind).afterCalls (passedOn.map Change.call) = inside := by
  intro accumulator changes live passedOn
  have distinct : kind.distinct ≠ kind := by rcases hasDistinct with rfl | rfl | rfl <;> decide
  have tracks := (tracks_fresh strategy kind.distinct).afterCalls calls
  rw [List.nil_append] at tracks
  have empty := keeps_fresh strategy kind.distinct
  have takes : (fresh strategy kind.distinct).Takes changes accumulator := takes_accepted _ calls
  rw [fresh_distinct strategy distinct] at empty takes
  obtain ⟨copies, inside, same, takesInside⟩ := empty.takes_transitions takes
  have keeps : accumulator.Keeps (.ofChanges changes) := tracks.keeps
  rw [same] at keeps
  have after := takesInside.afterCalls_eq
  refine ⟨tracks.count_held, copies, inside, same, keeps.onSupport (Account.sound_ofChanges changes), ?_,
    takesInside.accepted_eq, after⟩
  rw [← after, aggregate_afterCalls, aggregate_fresh]

-- The least integer keeps a distinct sum in range. The sum inside has seen three values come and none go.
theorem distinct_on_support_leastInteger :
    let calls : List Call := [.incorporate (.int Int64.minValue), .incorporate (.int Int64.maxValue),
      .incorporate (.int Int64.maxValue), .incorporate (.int (Int64.maxValue - 1)), .undo (.int Int64.minValue),
      .undo (.int Int64.maxValue)]
    ((fresh .rescan .sumDistinct).afterCalls calls).checkUndo (.int Int64.minValue) =
        .error (.sumOverflow .undo Int64.minValue (Int64.maxValue - 2)) ∧
      ∃ copies inside, (fresh .rescan .sumDistinct).afterCalls calls = .distinct copies inside ∧
        OnSupport copies inside [.int Int64.minValue, .int Int64.maxValue, .int (Int64.maxValue - 1)] ∧
        (fresh .rescan .sum).afterCalls [.incorporate (.int Int64.minValue), .incorporate (.int Int64.maxValue),
          .incorporate (.int (Int64.maxValue - 1))] = inside := by
  intro calls
  have live : heldAfter .rescan .sumDistinct calls =
      [.int Int64.minValue, .int Int64.maxValue, .int (Int64.maxValue - 1)] := by decide +kernel
  have passedOn : Account.transitions {} ((fresh .rescan .sumDistinct).accepted calls) =
      [(.insert, .int Int64.minValue), (.insert, .int Int64.maxValue), (.insert, .int (Int64.maxValue - 1))] := by
    decide +kernel
  obtain ⟨_, copies, inside, same, onSupport, _, _, after⟩ := distinct_on_support .rescan .sum (.inr (.inl rfl)) calls
  simp only [Aggregate.distinct, live, passedOn] at same onSupport after
  exact ⟨by decide +kernel, copies, inside, same, onSupport, after⟩

end Accumulator

end DeltaQuery
