import ShieldedLedger.Proofs.Bounds

/-!
# The rules in single steps

A rule says what each record of a transaction carries. A machine does not compute these amounts
independently of each other: it goes through the outputs once, keeps what it has recorded and what
is still to be placed, and adds and subtracts one amount at a time. This file writes the totals and
the rules down as such calculations. Each of them arrives at what the rule says, with no amount on
the way larger than three times all money.

The fees of a deposit into the pool and of a payment out of it also depend on the parameters, which
nothing bounds. They are no part of the calculations. Nor is the receipt of notes: nothing bounds its
amounts either, and the rule itself says where they are put into words.

## Main definitions

* `collectSteps`, `observedFeeSteps` — the totals and the fee
* `transparentSteps` — the transparent rule
* `poolDepositSteps`, `poolWithdrawalSteps`, `shieldedSendSteps` — the rules for the pool

## Main results

* `within_collectSteps` — the totals are calculated within all money
* `within_transparentSteps` — the transparent rule, within three times as much
-/

namespace ShieldedLedger

open Calculation

variable {w : WalletView} {tx : Transaction} {t : Totals} {p : Params}

/-! ### The totals -/

/-- Adds what an output holds to the credit, and to the change if it pays change. -/
def WalletView.addHeld (w : WalletView) (t : Totals) (out : TxOutput) : Calculation Totals :=
  if (w.outputOwnership out).isMine then do
    let credit ← word (t.credit + out.value)
    if w.isChange out then
      let change ← word (t.change + out.value)
      return { t with credit, change }
    else return { t with credit }
  else return t

/-- The totals, once the value of the owned inputs is known. -/
def collectSteps (w : WalletView) (tx : Transaction) (debit : Int) : Calculation Totals :=
  tx.outputs.foldlM w.addHeld { debit, credit := 0, change := 0 }

/-- The totals of the first outputs. -/
def WalletView.heldBy (w : WalletView) (debit : Int) (outputs : List TxOutput) : Totals :=
  let owned := outputs.filter fun out => (w.outputOwnership out).isMine
  { debit, credit := (owned.map (·.value)).sum,
    change := ((owned.filter w.isChange).map (·.value)).sum }

theorem WalletView.heldBy_append (w : WalletView) (debit : Int) (before : List TxOutput)
    (out : TxOutput) :
    w.heldBy debit (before ++ [out]) =
      let held := w.heldBy debit before
      if (w.outputOwnership out).isMine then
        if w.isChange out then
          { held with credit := held.credit + out.value, change := held.change + out.value }
        else { held with credit := held.credit + out.value }
      else held := by
  cases hmine : (w.outputOwnership out).isMine
  · simp [heldBy, hmine]
  · cases hpays : w.isChange out
    · simp [heldBy, hmine, hpays]
    · simp [heldBy, hmine, hpays]

/-- One step of adding up. What is owned among sound outputs is sound, and so is what pays
change. -/
theorem WalletView.within_addHeld {debit : Int} {before : List TxOutput} {out : TxOutput}
    (h : SoundAmounts ((before ++ [out]).map (·.value))) :
    (w.addHeld (w.heldBy debit before) out).Within maxMoney (w.heldBy debit (before ++ [out])) := by
  have hcredit : InMoneyRange (w.heldBy debit (before ++ [out])).credit :=
    (h.filter _).inMoneyRange
  have hchange : InMoneyRange (w.heldBy debit (before ++ [out])).change :=
    ((h.filter _).filter _).inMoneyRange
  rw [heldBy_append] at hcredit hchange ⊢
  rw [addHeld]
  split_ifs at hcredit hchange ⊢ with hmine hpays
  · exact (within_word_of_inMoneyRange hcredit).bind
      ((within_word_of_inMoneyRange hchange).bind (within_pure _ _))
  · exact (within_word_of_inMoneyRange hcredit).bind (within_pure _ _)
  · exact within_pure _ _

/-- **The totals are calculated without leaving the money range.** -/
theorem within_collectSteps (h : tx.Sound) :
    (collectSteps w tx (w.totals tx).debit).Within maxMoney (w.totals tx) := by
  refine within_foldlM (w.heldBy (w.totals tx).debit) fun before out after houtputs => ?_
  refine WalletView.within_addHeld ?_
  have hsound := h.outputs
  rw [houtputs, List.append_cons, List.map_append] at hsound
  exact hsound.of_append

/-! ### The fee -/

/-- What the transparent side leaves behind, from left to right. -/
def observedFeeSteps (tx : Transaction) (t : Totals) : Calculation Int := do
  let leaving ← total (tx.shielded.map (·.leaving))
  let spent ← word (t.debit + leaving)
  let paid ← total (tx.outputs.map (·.value))
  let kept ← word (spent - paid)
  let entering ← total (tx.shielded.map (·.entering))
  word (kept - entering)

theorem Calculation.Within.of_maxMoney {α : Type} {c : Calculation α} {a : α}
    (hc : c.Within maxMoney a) : c.Within (3 * maxMoney) a :=
  hc.mono (by decide)

theorem within_observedFeeSteps (h : tx.Sound) (ht : t.Bounded tx) :
    (observedFeeSteps tx t).Within (3 * maxMoney) (t.observedFee tx) := by
  obtain ⟨hdebit, hdebit'⟩ := ht.debit
  obtain ⟨hout, hout'⟩ := h.outputs.inMoneyRange
  obtain ⟨hin, hin'⟩ := h.entering.inMoneyRange
  obtain ⟨hleave, hleave'⟩ := h.leaving.inMoneyRange
  refine (within_total h.leaving).of_maxMoney.bind ?_
  refine (within_word (by omega) (by omega)).bind ?_
  refine (within_total h.outputs).of_maxMoney.bind ?_
  refine (within_word (by omega) (by omega)).bind ?_
  refine (within_total h.entering).of_maxMoney.bind ?_
  exact within_word (by omega) (by omega)

/-! ### Receipts -/

/-- A change of the head passes over what is added at the end, unless that is the head. -/
theorem modifyHead_concat (f : Movement → Movement) (ms : List Movement) (m : Movement) :
    (ms ++ [m]).modifyHead f = ms.modifyHead f ++ [if ms.isEmpty then f m else m] := by
  cases ms with
  | nil => rfl
  | cons m' ms => rfl

/-- Records the receipt of an output, if it is owned. The first record carries the debit. -/
def creditStep (w : WalletView) (tx : Transaction) (t : Totals) (records : List Movement)
    (out : TxOutput) : Calculation (List Movement) :=
  if (w.outputOwnership out).isMine then do
    let debit ← if records.isEmpty then word (-t.debit) else pure 0
    let credit ← word out.value
    return records ++ [{ creditMovement w tx out with debit, credit }]
  else return records

/-- The receipts of the first outputs. -/
def receiptsOf (w : WalletView) (tx : Transaction) (t : Totals) (outputs : List TxOutput) :
    List Movement :=
  ((outputs.filter fun out => (w.outputOwnership out).isMine).map
    (creditMovement w tx)).modifyHead ({ · with debit := -t.debit })

theorem receiptsOf_append (w : WalletView) (tx : Transaction) (t : Totals)
    (before : List TxOutput) (out : TxOutput) :
    receiptsOf w tx t (before ++ [out]) =
      let records := receiptsOf w tx t before
      if (w.outputOwnership out).isMine then
        records ++ [if records.isEmpty then { creditMovement w tx out with debit := -t.debit }
          else creditMovement w tx out]
      else records := by
  by_cases hmine : (w.outputOwnership out).isMine
  · simp [receiptsOf, hmine, modifyHead_concat]
  · simp [receiptsOf, hmine]

theorem within_creditStep (hdebit : InMoneyRange t.debit) {before : List TxOutput} {out : TxOutput}
    (hvalue : InMoneyRange out.value) :
    (creditStep w tx t (receiptsOf w tx t before) out).Within maxMoney
      (receiptsOf w tx t (before ++ [out])) := by
  obtain ⟨hlow, hhigh⟩ := hdebit
  have hcredit := within_word_of_inMoneyRange hvalue
  rw [receiptsOf_append, creditStep]
  dsimp only
  split_ifs with hmine hempty
  · exact (within_word (by omega) (by omega)).bind (hcredit.bind (within_pure _ _))
  · exact (within_pure _ _).bind (hcredit.bind (within_pure _ _))
  · exact within_pure _ _

theorem within_creditSteps (h : tx.Sound) (hdebit : InMoneyRange t.debit) :
    (tx.outputs.foldlM (creditStep w tx t) []).Within maxMoney (creditMovements w tx t) := by
  refine within_foldlM (receiptsOf w tx t) fun before out after houtputs => ?_
  exact within_creditStep hdebit (h.outputs.inRange _ (List.mem_map_of_mem (by simp [houtputs])))

/-! ### Payments -/

/-- Records what an output takes, if it is foreign. The first record carries the fee, if there is
one, and none is left for the others. -/
def debitStep (w : WalletView) (tx : Transaction) (state : List Movement × Int) (out : TxOutput) :
    Calculation (List Movement × Int) :=
  let (records, fee) := state
  if (w.outputOwnership out).isMine then return (records, fee)
  else if 0 < fee then do
    let value ← word (out.value + fee)
    let debit ← word (-value)
    return (records ++ [{ debitMovement w tx out with debit, fee }], 0)
  else do
    let debit ← word (-out.value)
    return (records ++ [{ debitMovement w tx out with debit }], fee)

/-- What the first outputs take, and what is left of the fee. -/
def paymentsOf (w : WalletView) (tx : Transaction) (fee : Int) (outputs : List TxOutput) :
    List Movement × Int :=
  let paid :=
    (outputs.filter fun out => !(w.outputOwnership out).isMine).map (debitMovement w tx)
  (paid.modifyHead (.charged fee), if paid.isEmpty then fee else min fee 0)

/-- Nothing is charged once the fee is placed. -/
theorem Movement.charged_of_nonpos {fee : Int} (h : fee ≤ 0) (m : Movement) : m.charged fee = m :=
  if_neg (Int.not_lt.mpr h)

theorem paymentsOf_append (w : WalletView) (tx : Transaction) (fee : Int)
    (before : List TxOutput) (out : TxOutput) :
    paymentsOf w tx fee (before ++ [out]) =
      let (records, left) := paymentsOf w tx fee before
      if (w.outputOwnership out).isMine then (records, left)
      else (records ++ [(debitMovement w tx out).charged left], min left 0) := by
  by_cases hmine : (w.outputOwnership out).isMine
  · simp [paymentsOf, hmine]
  · by_cases hempty : (before.filter fun out => !(w.outputOwnership out).isMine) = []
    · simp [paymentsOf, hmine, hempty]
    · have hleft : (debitMovement w tx out).charged (min fee 0) = debitMovement w tx out :=
        Movement.charged_of_nonpos (Int.min_le_right fee 0) _
      simp [paymentsOf, hmine, hempty, modifyHead_concat, hleft]

theorem within_debitStep {state : List Movement × Int} {out : TxOutput}
    (hfee : state.2 ≤ 2 * maxMoney) (hvalue : InMoneyRange out.value) :
    (debitStep w tx state out).Within (3 * maxMoney)
      (if (w.outputOwnership out).isMine then state
      else (state.1 ++ [(debitMovement w tx out).charged state.2], min state.2 0)) := by
  obtain ⟨records, fee⟩ := state
  obtain ⟨hlow, hhigh⟩ := hvalue
  rw [debitStep]
  dsimp only at hfee ⊢
  split_ifs with hmine hpos
  · exact within_pure _ _
  · refine (within_word (by omega) (by omega)).bind ((within_word (by omega) (by omega)).bind ?_)
    rw [Movement.charged, if_pos hpos, Int.min_eq_right (Int.le_of_lt hpos), Int.neg_add]
    exact within_pure _ _
  · refine (within_word (by omega) (by omega)).bind ?_
    rw [Movement.charged_of_nonpos (Int.not_lt.mp hpos), Int.min_eq_left (Int.not_lt.mp hpos)]
    exact within_pure _ _

theorem left_paymentsOf_le (w : WalletView) (tx : Transaction) (fee : Int)
    (outputs : List TxOutput) : (paymentsOf w tx fee outputs).2 ≤ fee := by
  rw [paymentsOf]
  dsimp only
  split
  · exact Int.le_refl fee
  · exact Int.min_le_left fee 0

theorem within_foldlM_debitStep (h : tx.Sound) {fee : Int} (hfee : fee ≤ 2 * maxMoney) :
    (tx.outputs.foldlM (debitStep w tx) ([], fee)).Within (3 * maxMoney)
      (paymentsOf w tx fee tx.outputs) := by
  refine within_foldlM (paymentsOf w tx fee) fun before out after houtputs => ?_
  have hvalue : InMoneyRange out.value :=
    h.outputs.inRange _ (List.mem_map_of_mem (by simp [houtputs]))
  rw [paymentsOf_append]
  exact within_debitStep (Int.le_trans (left_paymentsOf_le w tx fee before) hfee) hvalue

/-- Records what the pool takes, with what is left of the fee. -/
def depositSteps (w : WalletView) (tx : Transaction) (state : List Movement × Int) :
    Calculation (List Movement) := do
  let (records, left) := state
  let entering ← total (tx.shielded.map (·.entering))
  let leaving ← total (tx.shielded.map (·.leaving))
  let deposited ← word (entering - leaving)
  if 0 < deposited then
    let fee := max left 0
    let taken ← word (deposited + fee)
    let debit ← word (-taken)
    return records ++ [{
      kind := .sentTransparent, address := unknownShieldedAddress, debit, credit := 0, fee
      watchOnly := w.watchesAny tx }]
  else return records

/-- Where the fee is placed, the deposit bears none. -/
theorem within_depositSteps (h : tx.Sound) {state : List Movement × Int} (hleft : state.2 ≤ 0) :
    (depositSteps w tx state).Within (3 * maxMoney) (state.1 ++ depositMovements w tx) := by
  obtain ⟨records, left⟩ := state
  obtain ⟨hin, hin'⟩ := h.entering.inMoneyRange
  obtain ⟨hout, hout'⟩ := h.leaving.inMoneyRange
  have hfee : max left 0 = 0 := Int.max_eq_right hleft
  refine (within_total h.entering).of_maxMoney.bind ?_
  refine (within_total h.leaving).of_maxMoney.bind ?_
  refine (within_word (by omega) (by omega)).bind ?_
  rw [depositMovements, hfee]
  dsimp only
  split_ifs with hdeposit hdeposit' hdeposit'
  · refine (within_word (by omega) (by omega)).bind ?_
    refine (within_word (by omega) (by omega)).bind ?_
    rw [Int.add_zero]
    exact within_pure _ _
  · exact absurd hdeposit hdeposit'
  · exact absurd hdeposit' hdeposit
  · rw [List.append_nil]
    exact within_pure _ _

/-- A payment: the fee, the outputs of others, and the pool. -/
def debitSteps (w : WalletView) (tx : Transaction) (t : Totals) : Calculation (List Movement) := do
  let fee ← observedFeeSteps tx t
  let state ← tx.outputs.foldlM (debitStep w tx) ([], fee)
  depositSteps w tx state

theorem within_debitSteps (h : tx.Sound) (ht : t.Bounded tx) (hforeign : w.foreignOutputs tx ≠ []) :
    (debitSteps w tx t).Within (3 * maxMoney) (debitMovements w tx t) := by
  have hleft : (paymentsOf w tx (t.observedFee tx) tx.outputs).2 ≤ 0 := by
    have hpaid : ¬((w.foreignOutputs tx).map (debitMovement w tx)).isEmpty := by
      simpa using hforeign
    exact Int.le_trans (Int.le_of_eq (if_neg hpaid)) (Int.min_le_right _ 0)
  refine (within_observedFeeSteps h ht).bind ?_
  refine (within_foldlM_debitStep h (ht.observedFee_le h)).bind ?_
  exact within_depositSteps h hleft

/-! ### The transparent rule -/

/-- A transfer to oneself: the fee, then what leaves and what arrives besides the change. -/
def selfSteps (w : WalletView) (tx : Transaction) (t : Totals) : Calculation (List Movement) := do
  let fee ← observedFeeSteps tx t
  let spent ← word (t.debit - t.change)
  let debit ← word (-spent)
  let credit ← word (t.credit - t.change)
  return [{ selfMovement w tx t with debit, credit, fee }]

theorem within_selfSteps (h : tx.Sound) (ht : t.Bounded tx) :
    (selfSteps w tx t).Within (3 * maxMoney) [selfMovement w tx t] := by
  obtain ⟨hdebit, hdebit'⟩ := ht.debit
  obtain ⟨hcredit, hcredit'⟩ := ht.credit h
  obtain ⟨hchange, hchange'⟩ := ht.change h
  refine (within_observedFeeSteps h ht).bind ?_
  refine (within_word (by omega) (by omega)).bind ?_
  refine (within_word (by omega) (by omega)).bind ?_
  exact (within_word (by omega) (by omega)).bind (within_pure _ _)

/-- The net alone. -/
def mixedSteps (w : WalletView) (tx : Transaction) (t : Totals) : Calculation (List Movement) := do
  let debit ← word (t.credit - t.debit)
  return [{ mixedMovement w tx t with debit }]

/-- The transparent rule: the net decides, and then the outputs are gone through. -/
def transparentSteps (w : WalletView) (tx : Transaction) (t : Totals) :
    Calculation (List Movement) := do
  let net ← word (t.credit - t.debit)
  if 0 < net ∨ tx.isCoinbase then tx.outputs.foldlM (creditStep w tx t) []
  else if w.ownsAllInputs tx then
    if w.ownsAllOutputs tx then selfSteps w tx t else debitSteps w tx t
  else mixedSteps w tx t

/-- **The transparent rule is calculated within three times all money.** -/
theorem within_transparentSteps (h : tx.Sound) (ht : t.Bounded tx) :
    (transparentSteps w tx t).Within (3 * maxMoney) (transparent w tx t).movements := by
  have hnet : (word (t.credit - t.debit)).Within (3 * maxMoney) t.net := by
    obtain ⟨hdebit, hdebit'⟩ := ht.debit
    obtain ⟨hcredit, hcredit'⟩ := ht.credit h
    exact within_word (by omega) (by omega)
  refine hnet.bind ?_
  rw [transparent]
  split_ifs with hgain hin hout
  · exact (within_creditSteps h ht.debit).of_maxMoney
  · exact within_selfSteps h ht
  · exact within_debitSteps h ht (WalletView.foreignOutputs_ne_nil_of_not_ownsAll hout)
  · exact hnet.bind (within_pure _ _)

/-! ### The rules for the pool -/

/-- A deposit into the pool. -/
def poolDepositSteps (tx : Transaction) (t : Totals) (p : Params) : Calculation (List Movement) := do
  let entering ← total (tx.shielded.map (·.entering))
  let debit ← word (-entering)
  let credit ← word t.change
  return [{
    kind := .sentTransparent
    address := unknownShieldedAddress
    debit
    credit
    fee := p.operationFee - t.change }]

theorem within_poolDepositSteps (h : tx.Sound) (ht : t.Bounded tx) (p : Params) :
    (poolDepositSteps tx t p).Within (3 * maxMoney) (poolDeposit tx t p).movements := by
  obtain ⟨hin, hin'⟩ := h.entering.inMoneyRange
  refine (within_total h.entering).of_maxMoney.bind ?_
  refine (within_word (by omega) (by omega)).bind ?_
  exact (within_word_of_inMoneyRange (ht.change h)).of_maxMoney.bind (within_pure _ _)

/-- A payment out of the pool to the wallet. -/
def poolWithdrawalSteps (w : WalletView) (tx : Transaction) (t : Totals) :
    Calculation (List Movement) := do
  let credit ← word t.credit
  return [{
    kind := .receivedTransparent
    address := lastDestination (w.ownedOutputs tx)
    debit := 0
    credit
    watchOnly := w.watchesAny tx }]

theorem within_poolWithdrawalSteps (h : tx.Sound) (ht : t.Bounded tx) :
    (poolWithdrawalSteps w tx t).Within (3 * maxMoney) (poolWithdrawal w tx t).movements :=
  (within_word_of_inMoneyRange (ht.credit h)).of_maxMoney.bind (within_pure _ _)

/-- A payment out of the pool to others, and what leaves the pool beyond it. -/
def shieldedSendSteps (tx : Transaction) (p : Params) : Calculation (List Movement) := do
  let paid ← total (tx.outputs.map (·.value))
  let leaving ← total (tx.shielded.map (·.leaving))
  let leftover ← word (leaving - paid)
  let debit ← word (-paid)
  return [{
    kind := .shieldedSend
    address := lastDestination tx.outputs
    debit
    credit := 0
    fee := p.operationFee - leftover }]

theorem within_shieldedSendSteps (h : tx.Sound) (p : Params) (notes : List Note) :
    (shieldedSendSteps tx p).Within (3 * maxMoney) (shieldedSend tx p notes).movements := by
  obtain ⟨hout, hout'⟩ := h.outputs.inMoneyRange
  obtain ⟨hleave, hleave'⟩ := h.leaving.inMoneyRange
  refine (within_total h.outputs).of_maxMoney.bind ?_
  refine (within_total h.leaving).of_maxMoney.bind ?_
  refine (within_word (by omega) (by omega)).bind ?_
  exact (within_word (by omega) (by omega)).bind (within_pure _ _)

end ShieldedLedger
