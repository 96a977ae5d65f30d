/-!
# Amounts of money

An amount is an integer number of base units; debits are negative. No single value and no total of
the transparent or the shielded side may leave the money range.

Amounts are kept in signed words of 64 bits, and a sum that does not fit into a word wraps around.
Nothing calculated from amounts in the money range comes near to that. The amounts of the wallet's
own notes are never checked against the range, so what is calculated from them says where it is put
into a word. A fee that is assumed stays in the integers: it differs from what a profile says by no
more than all money.

## Main definitions

* `maxMoney`, `InMoneyRange`
* `addMoney`: a running total that refuses to leave the range
* `sumOf`: the sum of a list of amounts
* `wrap`, `FitsWord`: what a word holds, and when that is what was put into it
* `sumInWords`: a sum that is put into a word after each amount
-/

namespace ShieldedLedger

/-- The largest amount that a value or a total may carry. -/
def maxMoney : Int := 21000000 * 100000000

/-- The amount is neither negative nor larger than all money. -/
def InMoneyRange (value : Int) : Prop := 0 ≤ value ∧ value ≤ maxMoney

instance (value : Int) : Decidable (InMoneyRange value) :=
  inferInstanceAs (Decidable (0 ≤ value ∧ value ≤ maxMoney))

/-- Adds a value to a running total, unless the value or the sum leaves the money range. -/
def addMoney (total value : Int) : Option Int :=
  if InMoneyRange value ∧ InMoneyRange (total + value) then some (total + value) else none

theorem addMoney_eq_some_iff {total value sum : Int} :
    addMoney total value = some sum ↔
      InMoneyRange value ∧ InMoneyRange (total + value) ∧ total + value = sum := by
  unfold addMoney
  split
  · next h => simp [h]
  · next h => exact ⟨nofun, fun h' => absurd ⟨h'.1, h'.2.1⟩ h⟩

/-- The sum of some amounts. It is `List.sum`, written out because the zero of that one depends on
what a module imports. -/
def sumOf (amounts : List Int) : Int := amounts.foldr (· + ·) 0

/-! ### Words -/

/-- What a signed word of 64 bits holds after an amount was put into it. -/
def wrap (amount : Int) : Int := (Int64.ofInt amount).toInt

/-- The largest amount that a signed word of 64 bits can hold. -/
def maxWord : Int := Int64.maxValue.toInt

/-- An amount fits into a signed word of 64 bits. -/
def FitsWord (amount : Int) : Prop := -maxWord - 1 ≤ amount ∧ amount ≤ maxWord

instance (amount : Int) : Decidable (FitsWord amount) :=
  inferInstanceAs (Decidable (-maxWord - 1 ≤ amount ∧ amount ≤ maxWord))

theorem FitsWord.wrap_eq {amount : Int} (h : FitsWord amount) : wrap amount = amount := by
  obtain ⟨hlow, hhigh⟩ := h
  have hmax : maxWord = 9223372036854775807 := rfl
  exact Int64.toInt_ofInt_of_le (by omega) (by omega)

/-- Where a sum wraps at the end, it makes no difference whether it wrapped on the way. -/
@[simp] theorem wrap_wrap_add (a b : Int) : wrap (wrap a + b) = wrap (a + b) := by
  simp only [wrap, Int64.toInt_ofInt, Int.bmod_add_bmod]

/-- The sum of some amounts from the first to the last, put into a word at every step. -/
def sumInWords (amounts : List Int) : Int :=
  amounts.foldl (fun sum amount => wrap (sum + amount)) 0

end ShieldedLedger
