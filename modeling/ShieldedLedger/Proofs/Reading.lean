import ShieldedLedger.Proofs.Rule

/-!
# How a transparent side is read

The transparent rule asks three questions: whether the wallet gains anything or is paid a block
reward, whether all inputs are its own, and whether all outputs are. This file says once what each
combination of answers makes of a transaction. A reading that lists outputs one by one has an output
to list, so no reading comes out empty, but for a block reward that pays nothing to the wallet.

## Main definitions

* `WalletView.NetsOnly` — the case in which nothing but the net can be told
* `Reading` — the four readings, with the answers that lead to them

## Main results

* `reading_transparent` — the transparent rule gives one of them
* `movements_transparent_ne_nil` — and something is recorded
-/

namespace ShieldedLedger

variable {w : WalletView} {tx : Transaction} {t : Totals}

/-- Only the net of a transaction can be told: the wallet gains nothing, and it is not the only
payer. -/
def WalletView.NetsOnly (w : WalletView) (tx : Transaction) (t : Totals) : Prop :=
  ¬(0 < t.net ∨ tx.isCoinbase) ∧ ¬w.ownsAllInputs tx

/-- What becomes of a transaction under the transparent rule, with the answers that lead to it. -/
inductive Reading (w : WalletView) (tx : Transaction) (t : Totals) : Decomposition → Prop where
  /-- The wallet gains or is paid a block reward: its outputs are listed. -/
  | receipt (hgain : 0 < t.net ∨ tx.isCoinbase) :
    Reading w tx t { movements := creditMovements w tx t }
  /-- Everything is the wallet's. -/
  | selfTransfer (hgain : ¬(0 < t.net ∨ tx.isCoinbase)) (hin : w.ownsAllInputs tx)
    (hout : w.ownsAllOutputs tx) : Reading w tx t { movements := [selfMovement w tx t] }
  /-- The wallet pays: the outputs of others are listed. -/
  | payment (hgain : ¬(0 < t.net ∨ tx.isCoinbase)) (hin : w.ownsAllInputs tx)
    (hout : ¬w.ownsAllOutputs tx) : Reading w tx t { movements := debitMovements w tx t }
  /-- The payees cannot be told apart. -/
  | netOnly (h : w.NetsOnly tx t) :
    Reading w tx t {
      movements := [mixedMovement w tx t]
      notices := [.degradedToMixed t.net]
      log := [.netOnly tx.hash t.net] }

/-- **The transparent rule gives one of the readings.** -/
theorem reading_transparent (w : WalletView) (tx : Transaction) (t : Totals) :
    Reading w tx t (transparent w tx t) := by
  rw [transparent]
  split_ifs with hgain hin hout
  · exact .receipt hgain
  · exact .selfTransfer hgain hin hout
  · exact .payment hgain hin hout
  · exact .netOnly ⟨hgain, hin⟩

/-! ### What is listed -/

/-- A gain comes from an output. -/
theorem WalletView.ownedOutputs_ne_nil_of_gain (hdebit : 0 ≤ (w.totals tx).debit)
    (hgain : 0 < (w.totals tx).net) : w.ownedOutputs tx ≠ [] := by
  intro hnil
  rw [Totals.net, credit_eq_zero hnil] at hgain
  omega

/-- If the outputs are not all owned, some output is foreign. -/
theorem WalletView.foreignOutputs_ne_nil_of_not_ownsAll (hout : ¬w.ownsAllOutputs tx) :
    w.foreignOutputs tx ≠ [] := by
  rw [foreignOutputs_ne_nil_iff]
  by_contra hall
  exact hout (ownsAllOutputs_iff.mpr fun out hmem => by_contra fun h => hall ⟨out, hmem, h⟩)

theorem creditMovements_ne_nil (h : w.ownedOutputs tx ≠ []) : creditMovements w tx t ≠ [] := by
  rw [creditMovements, ne_eq, List.modifyHead_eq_nil_iff, List.map_eq_nil_iff]
  exact h

theorem debitMovements_ne_nil (h : w.foreignOutputs tx ≠ []) : debitMovements w tx t ≠ [] := by
  rw [debitMovements, ne_eq, List.append_eq_nil_iff, List.modifyHead_eq_nil_iff,
    List.map_eq_nil_iff]
  exact fun hnil => h hnil.1

/-- **A transaction that is no block reward leaves a record.** -/
theorem movements_transparent_ne_nil (hcoinbase : tx.isCoinbase = false)
    (hdebit : 0 ≤ (w.totals tx).debit) :
    (transparent w tx (w.totals tx)).movements ≠ [] := by
  have hreading := reading_transparent w tx (w.totals tx)
  generalize transparent w tx (w.totals tx) = d at hreading ⊢
  cases hreading with
  | receipt hgain =>
    have hnet : 0 < (w.totals tx).net := hgain.resolve_right (by simp [hcoinbase])
    exact creditMovements_ne_nil (WalletView.ownedOutputs_ne_nil_of_gain hdebit hnet)
  | selfTransfer => exact List.cons_ne_nil _ _
  | payment _ _ hout =>
    exact debitMovements_ne_nil (WalletView.foreignOutputs_ne_nil_of_not_ownsAll hout)
  | netOnly => exact List.cons_ne_nil _ _

end ShieldedLedger
