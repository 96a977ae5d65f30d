import ShieldedLedger.Proofs.CheckedSum

/-!
# Calculations in machine words

Checked amounts are added and subtracted as integers in this library, and integers never overflow. A
machine keeps an amount in a word of 64 bits, where a sum that does not fit silently becomes another
one. To say that the two agree one has to look at every sum on the way, not only at the result, so a
calculation is taken apart here into its single steps: each step has one amount, which is put into a
word, and the rest of the calculation goes on with what the word holds.

A calculation can be run without words, and with them. If every amount of the first run fits into a
word, the second run is the same; so it is enough to bound the amounts of the exact run, and such
bounds are put together step by step.

## Main definitions

* `checkedAdd` — addition that refuses a sum which does not fit
* `Calculation` — a calculation in single steps, with its two runs and its amounts
* `Calculation.Within` — the result of a calculation, with a bound on all its amounts

## Main results

* `Calculation.inWords_eq_exact` — words do not matter where every amount fits
* `Calculation.Within.bind`, `Calculation.within_foldlM` — how bounds are put together
* `addMoney_eq_checkedAdd` — a total that refuses to leave the money range never overflows
-/

namespace ShieldedLedger

/-! ### Words -/

/-- Addition of words that notices when the sum does not fit. -/
def checkedAdd (a b : Int) : Option Int := if FitsWord (a + b) then some (a + b) else none

theorem InMoneyRange.fitsWord {amount : Int} (h : InMoneyRange amount) : FitsWord amount := by
  obtain ⟨hlow, hhigh⟩ := h
  have hmax : maxMoney ≤ maxWord := by decide
  exact ⟨by omega, by omega⟩

/-- **A total that refuses to leave the money range is the same in words**: a sum that does not fit
is refused either way. -/
theorem addMoney_eq_checkedAdd (total value : Int) :
    addMoney total value =
      if InMoneyRange value then (checkedAdd total value).filter (InMoneyRange ·) else none := by
  rw [addMoney, checkedAdd]
  by_cases hvalue : InMoneyRange value
  · by_cases hsum : InMoneyRange (total + value)
    · rw [if_pos ⟨hvalue, hsum⟩, if_pos hvalue, if_pos hsum.fitsWord]
      exact (Option.filter_some_pos (by simpa using hsum)).symm
    · rw [if_neg fun h => hsum h.2, if_pos hvalue]
      split
      · exact (Option.filter_some_neg (by simpa using hsum)).symm
      · rfl
  · rw [if_neg fun h => hvalue h.1, if_neg hvalue]

/-! ### Calculations -/

/-- A calculation in single steps. -/
inductive Calculation (α : Type) where
  /-- The calculation is over. -/
  | done (result : α)
  /-- An amount is put into a word, and the rest goes on with what the word holds. -/
  | step (amount : Int) (rest : Int → Calculation α)

namespace Calculation

variable {α β : Type}

/-- One calculation after the other. -/
def andThen : Calculation α → (α → Calculation β) → Calculation β
  | done a, f => f a
  | step amount rest, f => step amount fun held => (rest held).andThen f

instance : Monad Calculation where
  pure := done
  bind := andThen

/-- The calculation of a single amount. -/
def word (amount : Int) : Calculation Int := step amount done

/-- The sum of some amounts, from the first to the last. -/
def total (amounts : List Int) : Calculation Int :=
  amounts.foldlM (fun sum amount => word (sum + amount)) 0

/-- The result, if a word holds what a function makes of an amount. -/
def run (hold : Int → Int) : Calculation α → α
  | done a => a
  | step amount rest => (rest (hold amount)).run hold

/-- The result in unbounded integers. -/
def exact (c : Calculation α) : α := c.run id

/-- The result in words of 64 bits. -/
def inWords (c : Calculation α) : α := c.run wrap

/-- All amounts that are calculated in unbounded integers. -/
def amounts : Calculation α → List Int
  | done _ => []
  | step amount rest => amount :: (rest amount).amounts

/-- **Words do not matter where every amount fits.** The induction follows the exact run; as long as
it has been followed, the words hold the same amounts. -/
theorem inWords_eq_exact {c : Calculation α} (h : ∀ amount ∈ c.amounts, FitsWord amount) :
    c.inWords = c.exact := by
  induction c with
  | done a => rfl
  | step amount rest ih =>
    have hfits : FitsWord amount := h amount List.mem_cons_self
    have hrest : ∀ held ∈ (rest amount).amounts, FitsWord held :=
      fun held hheld => h held (List.mem_cons_of_mem amount hheld)
    calc (step amount rest).inWords = (rest (wrap amount)).inWords := rfl
      _ = (rest amount).inWords := by rw [hfits.wrap_eq]
      _ = (rest amount).exact := ih amount hrest

theorem exact_bind (c : Calculation α) (f : α → Calculation β) :
    (c >>= f).exact = (f c.exact).exact := by
  change (c.andThen f).exact = _
  induction c with
  | done a => rfl
  | step amount rest ih => exact ih amount

theorem amounts_bind (c : Calculation α) (f : α → Calculation β) :
    (c >>= f).amounts = c.amounts ++ (f c.exact).amounts := by
  change (c.andThen f).amounts = _
  induction c with
  | done a => rfl
  | step amount rest ih => exact congrArg (amount :: ·) (ih amount)

/-! ### Bounds -/

/-- A calculation has a result, and no amount on the way is larger than a bound. -/
structure Within (c : Calculation α) (bound : Int) (result : α) : Prop where
  /-- The exact run gives the result. -/
  exact_eq : c.exact = result
  /-- No amount of that run exceeds the bound in size. -/
  amounts_le : ∀ amount ∈ c.amounts, -bound ≤ amount ∧ amount ≤ bound

variable {c : Calculation α} {f : α → Calculation β} {bound : Int} {a : α} {b : β}

theorem within_pure (bound : Int) (a : α) : Within (pure a) bound a :=
  ⟨rfl, fun _ h => absurd h List.not_mem_nil⟩

theorem within_word {amount : Int} (hlow : -bound ≤ amount) (hhigh : amount ≤ bound) :
    (word amount).Within bound amount :=
  ⟨rfl, fun _ h => List.mem_singleton.mp h ▸ ⟨hlow, hhigh⟩⟩

theorem within_word_of_inMoneyRange {amount : Int} (h : InMoneyRange amount) :
    (word amount).Within maxMoney amount :=
  within_word (Int.le_trans (Int.neg_nonpos_of_nonneg (Int.le_trans h.1 h.2)) h.1) h.2

/-- A bound on two calculations is one on both together. -/
theorem Within.bind (hc : c.Within bound a) (hf : (f a).Within bound b) :
    (c >>= f).Within bound b := by
  constructor
  · rw [exact_bind, hc.exact_eq, hf.exact_eq]
  · rw [amounts_bind, hc.exact_eq]
    exact fun amount h =>
      (List.mem_append.mp h).elim (hc.amounts_le amount) (hf.amounts_le amount)

theorem Within.mono {bound' : Int} (hc : c.Within bound a) (hle : bound ≤ bound') :
    c.Within bound' a := by
  refine ⟨hc.exact_eq, fun amount h => ?_⟩
  have hamount := hc.amounts_le amount h
  omega

/-- A calculation whose amounts stay below the size of a word has the same result in words. -/
theorem Within.inWords_eq (hc : c.Within bound a) (hbound : bound ≤ maxWord) : c.inWords = a := by
  rw [inWords_eq_exact fun amount h => ?_, hc.exact_eq]
  have hamount := hc.amounts_le amount h
  exact ⟨by omega, by omega⟩

/-- **The rule for a loop**: say what has been reached after each part of the list, and show that
one step reaches the next. -/
theorem within_foldlM {l : List α} {f : β → α → Calculation β} (reached : List α → β)
    (hstep : ∀ before a after, l = before ++ a :: after →
      (f (reached before) a).Within bound (reached (before ++ [a]))) :
    (l.foldlM f (reached [])).Within bound (reached l) := by
  have hrest : ∀ after before, l = before ++ after →
      (after.foldlM f (reached before)).Within bound (reached l) := by
    intro after
    induction after with
    | nil =>
      intro before hl
      rw [List.append_nil] at hl
      rw [List.foldlM_nil, hl]
      exact within_pure bound (reached before)
    | cons a after ih =>
      intro before hl
      rw [List.foldlM_cons]
      exact (hstep before a after hl).bind (ih (before ++ [a]) (by rw [hl, List.append_cons]))
  exact hrest l [] rfl

/-- Amounts that pass the check can be added up without leaving the money range, since the first of
them pass it, too. -/
theorem within_total {amounts : List Int} (h : SoundAmounts amounts) :
    (total amounts).Within maxMoney (amounts.sum) := by
  refine within_foldlM List.sum fun before amount after hl => ?_
  have hsum : SoundAmounts (before ++ [amount]) := by
    rw [hl, List.append_cons] at h
    exact h.of_append
  have hrange := hsum.inMoneyRange
  rw [List.sum_append, List.sum_cons, List.sum_nil, Int.add_zero] at hrange ⊢
  exact within_word_of_inMoneyRange hrange

end Calculation

end ShieldedLedger
