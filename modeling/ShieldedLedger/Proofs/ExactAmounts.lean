import ShieldedLedger.Proofs.Conservation
import ShieldedLedger.Proofs.WordSteps

/-!
# Amounts are exact

The amounts of a transaction are checked once, before anything is computed from them. Afterwards
they are added and subtracted without any further check. This file says what the check establishes
and why it is enough: in a transaction that passes it, and whose spent outputs pass it as well, the
totals are ordered, and whatever the rules calculate stays so far below the size of a machine word
that no sum and no difference ever wraps around.

## Main definitions

* `Calculation.Safe` — a calculation in which nothing wraps around

## Main results

* `Transaction.sound_iff` — what the check establishes, amount by amount
* `amounts_exact` — the check makes every calculation exact
-/

namespace ShieldedLedger

variable {w : WalletView} {tx : Transaction} {t : Totals} {p : Params}

/-! ### Safe calculations -/

/-- A calculation arrives at a result with no amount larger than three times all money, and words of
64 bits arrive at the same result. -/
structure Calculation.Safe {α : Type} (c : Calculation α) (result : α) : Prop where
  /-- The exact run gives the result within the bound. -/
  within : c.Within (3 * maxMoney) result
  /-- So does the run in words. -/
  inWords_eq : c.inWords = result

theorem Calculation.Within.safe {α : Type} {c : Calculation α} {a : α}
    (h : c.Within (3 * maxMoney) a) : c.Safe a :=
  ⟨h, h.inWords_eq three_mul_maxMoney_le⟩

/-! ### What the check establishes -/

theorem soundAmounts_map_iff {α : Type} {f : α → Int} {l : List α} :
    SoundAmounts (l.map f) ↔ (∀ a ∈ l, InMoneyRange (f a)) ∧ (l.map f).sum ≤ maxMoney :=
  ⟨fun h => ⟨List.forall_mem_map.mp h.inRange, h.total_le⟩,
    fun h => ⟨List.forall_mem_map.mpr h.1, h.2⟩⟩

/-- **A transaction is sound if each of its amounts is in the money range and none of the three
totals exceeds all money.** -/
theorem Transaction.sound_iff :
    tx.Sound ↔
      (∀ out ∈ tx.outputs, InMoneyRange out.value) ∧
      (∀ transfer ∈ tx.shielded,
        InMoneyRange transfer.entering ∧ InMoneyRange transfer.leaving) ∧
      tx.valueOut ≤ maxMoney ∧ tx.poolIn ≤ maxMoney ∧ tx.poolOut ≤ maxMoney := by
  constructor
  · intro h
    obtain ⟨hout, hout'⟩ := soundAmounts_map_iff.mp h.outputs
    obtain ⟨hin, hin'⟩ := soundAmounts_map_iff.mp h.entering
    obtain ⟨hleave, hleave'⟩ := soundAmounts_map_iff.mp h.leaving
    exact ⟨hout, fun transfer ht => ⟨hin transfer ht, hleave transfer ht⟩, hout', hin', hleave'⟩
  · rintro ⟨hout, hpool, hout', hin', hleave'⟩
    exact
      { outputs := soundAmounts_map_iff.mpr ⟨hout, hout'⟩
        entering := soundAmounts_map_iff.mpr ⟨fun transfer ht => (hpool transfer ht).1, hin'⟩
        leaving := soundAmounts_map_iff.mpr ⟨fun transfer ht => (hpool transfer ht).2, hleave'⟩ }

/-- **The check of the amounts makes the accounting exact.** It passes exactly the transactions
whose amounts and totals are in the money range as integers, whether or not it adds them up in
words. Where it passes and the totals of the wallet exist, these are ordered, and every amount that
the transparent rule or the rules for the pool calculate from them is the same in words of 64
bits. -/
theorem amounts_exact (w : WalletView) (p : Params) (tx : Transaction) :
    (∀ total value, addMoney total value =
      if InMoneyRange value then (checkedAdd total value).filter (InMoneyRange ·) else none) ∧
    (tx.checkAmounts = .ok () ↔
      (∀ out ∈ tx.outputs, InMoneyRange out.value) ∧
      (∀ transfer ∈ tx.shielded,
        InMoneyRange transfer.entering ∧ InMoneyRange transfer.leaving) ∧
      tx.valueOut ≤ maxMoney ∧ tx.poolIn ≤ maxMoney ∧ tx.poolOut ≤ maxMoney) ∧
    (∀ t, tx.checkAmounts = .ok () → Totals.of w tx = .ok t →
      (0 ≤ t.change ∧ t.change ≤ t.credit ∧ t.credit ≤ tx.valueOut ∧ tx.valueOut ≤ maxMoney) ∧
      InMoneyRange t.debit ∧ InMoneyRange tx.poolIn ∧ InMoneyRange tx.poolOut ∧
      (collectSteps w tx t.debit).Safe t ∧
      (transparentSteps w tx t).Safe (transparent w tx t).movements ∧
      (poolDepositSteps tx t p).Safe (poolDeposit tx t p).movements ∧
      (poolWithdrawalSteps w tx t).Safe (poolWithdrawal w tx t).movements ∧
      ∀ notes, (shieldedSendSteps tx p).Safe (shieldedSend tx p notes).movements) ∧
    3 * maxMoney ≤ maxWord := by
  refine ⟨addMoney_eq_checkedAdd, checkAmounts_eq_ok_iff.trans Transaction.sound_iff, ?_,
    three_mul_maxMoney_le⟩
  intro t hcheck ht
  have h : tx.Sound := checkAmounts_eq_ok_iff.mp hcheck
  obtain ⟨_, hspent, rfl⟩ := Totals.of_eq_ok_iff.mp ht
  have hbounded : (w.totals tx).Bounded tx := WalletView.bounded_totals h hspent
  refine ⟨⟨hbounded.change_nonneg, hbounded.change_le, hbounded.credit_le, h.outputs.total_le⟩,
    hbounded.debit, h.entering.inMoneyRange, h.leaving.inMoneyRange, ?_⟩
  exact ⟨(within_collectSteps h).of_maxMoney.safe, (within_transparentSteps h hbounded).safe,
    (within_poolDepositSteps h hbounded p).safe, (within_poolWithdrawalSteps h hbounded).safe,
    fun notes => (within_shieldedSendSteps h p notes).safe⟩

/-- All money is spent, and all but 30 is paid to somebody else. -/
theorem amounts_exact_samplePayment :
    ∃ t, Totals.of (.sample maxMoney []) (.samplePayment (maxMoney - 30) 30) = .ok t ∧
      (transparentSteps (.sample maxMoney []) (.samplePayment (maxMoney - 30) 30) t).inWords =
        (transparent (.sample maxMoney []) (.samplePayment (maxMoney - 30) 30) t).movements := by
  have hcheck : (Transaction.samplePayment (maxMoney - 30) 30).checkAmounts = .ok () := rfl
  have ht : Totals.of (.sample maxMoney []) (.samplePayment (maxMoney - 30) 30) = .ok _ := rfl
  obtain ⟨_, _, _, _, _, hsafe, _⟩ := (amounts_exact _ .standard _).2.2.1 _ hcheck ht
  exact ⟨_, ht, hsafe.inWords_eq⟩

end ShieldedLedger
