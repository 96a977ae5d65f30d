import ShieldedLedger.Proofs.Conservation
import ShieldedLedger.Proofs.Reading

/-!
# What is charged to which record

Under the transparent rule a record stands for one output, and there are amounts that belong to no
output in particular: the owned inputs of a receipt, and the fee of a payment. Each of them is
charged once, to the first record of its kind, wherever the outputs that are listed stand among the
others. The pool takes its share of a payment in a record of its own. That one never bears the fee,
since a payment has an output of somebody else to charge it to.

The movements are taken as whole lists here. A machine goes through the outputs one by one and
carries along what is left of the fee; `ShieldedLedger.Proofs.WordSteps` follows it step by step and
arrives at these lists.

## Main results

* `map_creditMovements` — receipts show the owned outputs, and the debit once
* `map_payments` — payments show the foreign outputs, and the fee once
* `records_mirror_outputs` — the records of a transaction under the transparent rule
-/

namespace ShieldedLedger

variable {w : WalletView} {tx : Transaction} {t : Totals} {p : Params}

/-! ### Receipts -/

/-- What is made of some things one by one and then changed at the head is made of each thing by its
place. -/
theorem map_modifyHead_map {α β : Type} (l : List α) (make : α → Movement)
    (change : Movement → Movement) (shown : Movement → β) :
    ((l.map make).modifyHead change).map shown =
      l.mapIdx fun i a => if i = 0 then shown (change (make a)) else shown (make a) := by
  cases l with
  | nil => rfl
  | cons a l =>
    have htail : (l.map make).map shown = l.mapIdx fun _ a => shown (make a) :=
      List.ext_getElem (by simp) fun i _ _ => by simp
    rw [List.map_cons, List.modifyHead_cons, List.map_cons, List.mapIdx_cons, htail]
    simp

/-- **Receipts show the owned outputs**, and the debit on the first of them. -/
theorem map_creditMovements (w : WalletView) (tx : Transaction) (t : Totals) :
    ((creditMovements w tx t).map fun m => (m.debit, m.credit, m.fee, m.watchOnly)) =
      (w.ownedOutputs tx).mapIdx fun i out =>
        (if i = 0 then -t.debit else 0, out.value, 0, (w.outputOwnership out).isWatchOnly) := by
  rw [creditMovements, map_modifyHead_map]
  congr 1
  funext i out
  split <;> rfl

/-! ### Payments -/

/-- A charge does not change what is paid besides the fee. -/
theorem charged_paid (fee : Int) (m : Movement) (hfee : m.fee = 0) :
    (-(m.charged fee).debit - (m.charged fee).fee, (m.charged fee).credit, (m.charged fee).fee) =
      (-m.debit, m.credit, max fee 0) := by
  rw [Movement.charged]
  split
  · next hpos =>
    have hpaid : -(m.debit - fee) - fee = -m.debit := by omega
    rw [hpaid, Int.max_eq_left (Int.le_of_lt hpos)]
  · next hpos =>
    rw [hfee, Int.sub_zero, Int.max_eq_right (Int.not_lt.mp hpos)]

/-- **Payments show the foreign outputs**, and the fee on the first of them. -/
theorem map_payments (w : WalletView) (tx : Transaction) (fee : Int) :
    ((((w.foreignOutputs tx).map (debitMovement w tx)).modifyHead (.charged fee)).map
        fun m => (-m.debit - m.fee, m.credit, m.fee)) =
      (w.foreignOutputs tx).mapIdx fun i out => (out.value, 0, if i = 0 then max fee 0 else 0) := by
  rw [map_modifyHead_map]
  congr 1
  funext i out
  split
  · have hvalue : - -out.value = out.value := Int.neg_neg _
    rw [charged_paid fee (debitMovement w tx out) rfl]
    exact congrArg (·, 0, max fee 0) hvalue
  · have hvalue : - -out.value - 0 = out.value := by omega
    exact congrArg (·, 0, 0) hvalue

/-- The pool is paid without a fee. -/
theorem map_depositMovements (w : WalletView) (tx : Transaction) :
    ((depositMovements w tx).map fun m => (m.address, m.debit, m.credit, m.fee)) =
      if tx.poolOut < tx.poolIn then
        [(unknownShieldedAddress, -(tx.poolIn - tx.poolOut), 0, 0)] else [] := by
  rw [depositMovements]
  by_cases hdeposit : tx.poolOut < tx.poolIn
  · rw [if_pos hdeposit, if_pos (Int.sub_pos_of_lt hdeposit)]
    rfl
  · rw [if_neg hdeposit, if_neg fun h => hdeposit (Int.lt_of_sub_pos h)]
    rfl

/-! ### Records -/

variable {c : Classification}

theorem records_of_transparent (hc : classify w p tx = .ok c)
    (hrule : Rule.of w tx = .transparent) (hconcerns : w.concerns tx) :
    c.records = Record.ofMovements tx (transparent w tx (w.totals tx)).movements := by
  obtain ⟨_, _, _, rfl⟩ := classify_eq_ok_iff.mp hc
  rw [classification_records, if_pos hconcerns, hrule, Rule.decomposition]

/-- What does not concern the wallet has no records, and no owned outputs either. -/
theorem receipt_records (hc : classify w p tx = .ok c) (hrule : Rule.of w tx = .transparent)
    (hgain : 0 < (w.totals tx).net ∨ tx.isCoinbase) :
    c.records = Record.ofMovements tx (creditMovements w tx (w.totals tx)) := by
  by_cases hconcerns : w.concerns tx
  · rw [records_of_transparent hc hrule hconcerns, transparent, if_pos hgain]
  · obtain ⟨_, _, _, rfl⟩ := classify_eq_ok_iff.mp hc
    rw [classification_records, if_neg hconcerns, creditMovements,
      (WalletView.not_mine_of_not_concerns hconcerns).2]
    rfl

/-- **Records mirror the outputs.** A receipt has a record for each owned output, in order, and the
first one bears the owned inputs. A payment has one for each foreign output, in order, of which the
first one bears the fee, and then one for the pool, if the pool takes anything. -/
theorem records_mirror_outputs (hc : classify w p tx = .ok c)
    (hrule : Rule.of w tx = .transparent) :
    ((w.totals tx).debit < (w.totals tx).credit ∨ tx.isCoinbase →
      (c.records.map fun r => (r.debit, r.credit, r.fee, r.watchOnly)) =
        (w.ownedOutputs tx).mapIdx fun i out =>
          (if i = 0 then -(w.totals tx).debit else 0, out.value, 0,
            (w.outputOwnership out).isWatchOnly)) ∧
    (¬((w.totals tx).debit < (w.totals tx).credit ∨ tx.isCoinbase) →
      tx.inputs ≠ [] → (∀ i ∈ tx.inputs, (w.inputOwnership i).isMine) →
      (∃ out ∈ tx.outputs, ¬(w.outputOwnership out).isMine) →
      ∃ payments deposit, c.records = payments ++ deposit ∧
        (payments.map fun r => (-r.debit - r.fee, r.credit, r.fee)) =
          ((w.foreignOutputs tx).mapIdx fun i out =>
            (out.value, 0, if i = 0 then
              max ((w.totals tx).debit + tx.poolOut - tx.valueOut - tx.poolIn) 0 else 0)) ∧
        (deposit.map fun r => (r.address, r.debit, r.credit, r.fee)) =
          if tx.poolOut < tx.poolIn then
            [(unknownShieldedAddress, -(tx.poolIn - tx.poolOut), 0, 0)] else []) := by
  constructor
  · intro hgain
    have hnet : 0 < (w.totals tx).net ∨ tx.isCoinbase := hgain.imp_left Int.sub_pos_of_lt
    rw [receipt_records hc hrule hnet, ← map_creditMovements]
    exact Record.map_ofMovements (fun _ _ => rfl) _
  · intro hgain hinputs howned hforeign
    rw [not_or, Int.not_lt, Bool.not_eq_true] at hgain
    have hpays : w.Pays tx := ⟨hinputs, howned, hforeign, hgain.1⟩
    have hconcerns : w.concerns tx :=
      Decidable.byContradiction fun h => WalletView.not_pays_of_not_concerns h hpays
    rw [records_of_transparent hc hrule hconcerns, transparent_of_pays hgain.2 hpays,
      debitMovements, Record.ofMovements, List.mapIdx_append]
    refine ⟨_, _, rfl, ?_, ?_⟩
    · rw [← Totals.observedFee, ← map_payments]
      exact Record.map_ofMovements (fun _ _ => rfl) _
    · rw [← map_depositMovements w]
      exact Record.map_numbered (fun _ _ => rfl) _ _

/-- A transaction that spends one output of the wallet and pays 7 to somebody else, and 30 and 40 to
the wallet. -/
def Transaction.sampleReceipt : Transaction :=
  { Transaction.blank .sample 0 with
    inputs := [⟨⟨.sample, 0⟩⟩]
    outputs := [⟨7, .raw [1]⟩, ⟨30, .raw []⟩, ⟨40, .raw []⟩] }

/-- A payment of 60 with 20 back that also moves 15 into the pool. -/
def Transaction.sampleSplit : Transaction :=
  { Transaction.samplePayment 60 20 with shielded := [⟨15, 0, []⟩], noteData := [⟨0, 0⟩] }

/-- The coin of 50 rides on the receipt of 30; of the coin of 100 the fee of 5 is charged to the
payment, and not to the deposit. -/
theorem records_mirror_outputs_samples :
    (∃ c, classify (.sample 50 []) .standard .sampleReceipt = .ok c ∧
      (c.records.map fun r => (r.debit, r.credit, r.fee, r.watchOnly)) =
        [(-50, 30, 0, false), (0, 40, 0, false)]) ∧
    ∃ c payments deposit, classify (.sample 100 []) .standard .sampleSplit = .ok c ∧
      c.records = payments ++ deposit ∧
      (payments.map fun r => (-r.debit - r.fee, r.credit, r.fee)) = [(60, 0, 5)] ∧
      (deposit.map fun r => (r.address, r.debit, r.credit, r.fee)) =
        [(unknownShieldedAddress, -15, 0, 0)] := by
  have hc : classify (.sample 50 []) .standard .sampleReceipt = .ok _ := rfl
  have hc' : classify (.sample 100 []) .standard .sampleSplit = .ok _ := rfl
  have hreceipt := (records_mirror_outputs hc rfl).1 (.inl (by decide))
  obtain ⟨payments, deposit, hrecords, hpayments, hdeposit⟩ :=
    (records_mirror_outputs hc' rfl).2 (by decide) (by decide) (by decide) (by decide)
  exact ⟨⟨_, hc, hreceipt⟩, _, payments, deposit, hc', hrecords, hpayments, hdeposit⟩

end ShieldedLedger
