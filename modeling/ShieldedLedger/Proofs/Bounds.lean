import ShieldedLedger.Proofs.Calculation
import ShieldedLedger.Proofs.Net
import ShieldedLedger.Proofs.Reading

/-!
# How large amounts become

The checks keep the totals of a transaction within all money. A rule adds and subtracts a few of
them, so what its movements gain stays within three times as much, and a word can hold far more than
that.

A receipt of notes is the exception. Its amounts are those of the wallet's notes, which no check
looks at. The records of every other rule add up in words as they do in the integers.

## Main definitions

* `Totals.Bounded` — how the totals of a transaction are ordered

## Main results

* `WalletView.bounded_totals` — the totals of a sound transaction are ordered
* `fitsWord_gain_decomposition` — what a movement gains fits into a word
* `net_of_ne_noteReceipt` — so the records add up to what their movements do
-/

namespace ShieldedLedger

variable {w : WalletView} {tx : Transaction} {p : Params} {t : Totals}

/-! ### The totals -/

theorem Transaction.Sound.inMoneyRange (h : tx.Sound) {out : TxOutput} (hout : out ∈ tx.outputs) :
    InMoneyRange out.value :=
  h.outputs.inRange _ (List.mem_map_of_mem hout)

/-- What is not change among the owned outputs is not negative, so change is part of the credit. -/
theorem WalletView.change_le_credit (h : tx.Sound) :
    (w.totals tx).change ≤ (w.totals tx).credit := by
  have hsplit : (w.totals tx).change
      + (((w.ownedOutputs tx).filter fun out => !w.isChange out).map (·.value)).sum
        = (w.totals tx).credit :=
    sum_map_filter_add_sum_map_filter_not w.isChange (·.value) (w.ownedOutputs tx)
  have hrest :
      0 ≤ (((w.ownedOutputs tx).filter fun out => !w.isChange out).map (·.value)).sum :=
    ((h.outputs.filter _).filter _).total_nonneg
  omega

/-- The totals of a transaction are ordered: change is part of the credit, which is part of the
outputs, and what is spent lies in the money range. -/
structure Totals.Bounded (t : Totals) (tx : Transaction) : Prop where
  /-- The owned inputs are worth no more than all money. -/
  debit : InMoneyRange t.debit
  /-- No change is negative. -/
  change_nonneg : 0 ≤ t.change
  /-- Change is owned. -/
  change_le : t.change ≤ t.credit
  /-- What is owned is part of the outputs. -/
  credit_le : t.credit ≤ tx.valueOut

/-- **The totals of a sound transaction are ordered.** What the wallet does not own is not negative,
so it can only make the outputs worth more. -/
theorem WalletView.bounded_totals (h : tx.Sound)
    (hspent : SoundAmounts ((w.spentOutputs tx).map (·.value))) : (w.totals tx).Bounded tx where
  debit := hspent.inMoneyRange
  change_nonneg := ((h.outputs.filter _).filter _).total_nonneg
  change_le := change_le_credit h
  credit_le := by
    have hforeign : 0 ≤ ((w.foreignOutputs tx).map (·.value)).sum :=
      (h.outputs.filter _).total_nonneg
    have hsplit := Transaction.valueOut_eq w tx
    omega

theorem Totals.Bounded.credit (ht : t.Bounded tx) (h : tx.Sound) : InMoneyRange t.credit :=
  ⟨Int.le_trans ht.change_nonneg ht.change_le, Int.le_trans ht.credit_le h.outputs.total_le⟩

theorem Totals.Bounded.change (ht : t.Bounded tx) (h : tx.Sound) : InMoneyRange t.change :=
  ⟨ht.change_nonneg, Int.le_trans ht.change_le (ht.credit h).2⟩

/-- What is left for a fee is no more than what is spent and what leaves the pool. -/
theorem Totals.Bounded.observedFee_le (ht : t.Bounded tx) (h : tx.Sound) :
    t.observedFee tx ≤ 2 * maxMoney := by
  have hdebit := ht.debit.2
  have hleaving : tx.poolOut ≤ maxMoney := h.leaving.total_le
  have hpaid : 0 ≤ tx.valueOut := h.outputs.total_nonneg
  have hentering : 0 ≤ tx.poolIn := h.entering.total_nonneg
  rw [Totals.observedFee]
  omega

/-! ### What a movement gains -/

/-- Three times all money fits into a word. -/
theorem three_mul_maxMoney_le : 3 * maxMoney ≤ maxWord := by decide

theorem fitsWord_of_le {amount : Int} (hlow : -(3 * maxMoney) ≤ amount)
    (hhigh : amount ≤ 3 * maxMoney) : FitsWord amount := by
  have hmax := three_mul_maxMoney_le
  exact ⟨by omega, by omega⟩

/-- An amount that is not negative fits into a word even when a checked amount is taken off. -/
theorem FitsWord.sub {amount value : Int} (h : FitsWord amount) (hnonneg : 0 ≤ amount)
    (hvalue : InMoneyRange value) : FitsWord (amount - value) := by
  obtain ⟨_, hhigh⟩ := h
  obtain ⟨hlow, hle⟩ := hvalue
  have hmax : maxMoney ≤ maxWord := by decide
  exact ⟨by omega, by omega⟩

theorem InMoneyRange.fitsWord_sub {a b : Int} (ha : InMoneyRange a) (hb : InMoneyRange b) :
    FitsWord (a - b) :=
  ha.fitsWord.sub ha.1 hb

/-- What holds of all elements, and of each of them after a change, holds after the first one was
changed. -/
theorem forall_mem_modifyHead {α : Type} {P : α → Prop} {f : α → α} {l : List α}
    (h : ∀ a ∈ l, P a) (hf : ∀ a ∈ l, P (f a)) : ∀ a ∈ l.modifyHead f, P a := by
  cases l with
  | nil => exact h
  | cons a l =>
    exact List.forall_mem_cons.mpr ⟨hf a List.mem_cons_self, (List.forall_mem_cons.mp h).2⟩

theorem fitsWord_gain_creditMovements (h : tx.Sound) (ht : t.Bounded tx) :
    ∀ m ∈ creditMovements w tx t, FitsWord m.gain := by
  have hvalue : ∀ out ∈ w.ownedOutputs tx, InMoneyRange out.value :=
    fun out hout => h.inMoneyRange (List.mem_of_mem_filter hout)
  refine forall_mem_modifyHead ?_ ?_
  · intro m hm
    obtain ⟨out, hout, rfl⟩ := List.mem_map.mp hm
    rw [gain_creditMovement]
    exact (hvalue out hout).fitsWord
  · intro m hm
    obtain ⟨out, hout, rfl⟩ := List.mem_map.mp hm
    exact (hvalue out hout).fitsWord_sub ht.debit

/-- A payment is charged with a fee at most, and the fee is no larger than two totals. -/
theorem fitsWord_gain_debitMovements (h : tx.Sound) (ht : t.Bounded tx) :
    ∀ m ∈ debitMovements w tx t, FitsWord m.gain := by
  have hfee := ht.observedFee_le h
  have hvalue : ∀ m ∈ (w.foreignOutputs tx).map (debitMovement w tx),
      -maxMoney ≤ m.gain ∧ m.gain ≤ 0 := by
    intro m hm
    obtain ⟨out, hout, rfl⟩ := List.mem_map.mp hm
    obtain ⟨hlow, hhigh⟩ := h.inMoneyRange (List.mem_of_mem_filter hout)
    rw [gain_debitMovement]
    omega
  refine List.forall_mem_append.mpr ⟨forall_mem_modifyHead ?_ ?_, ?_⟩
  · intro m hm
    have := hvalue m hm
    exact fitsWord_of_le (by omega) (by omega)
  · intro m hm
    have := hvalue m hm
    rw [gain_charged]
    exact fitsWord_of_le (by omega) (by omega)
  · intro m hm
    rw [depositMovements] at hm
    split at hm
    · obtain rfl := List.mem_singleton.mp hm
      show FitsWord (0 + -(tx.poolIn - tx.poolOut))
      rw [Int.zero_add, Int.neg_sub]
      exact h.leaving.inMoneyRange.fitsWord_sub h.entering.inMoneyRange
    · exact absurd hm List.not_mem_nil

theorem fitsWord_gain_transparent (h : tx.Sound) (ht : t.Bounded tx) :
    ∀ m ∈ (transparent w tx t).movements, FitsWord m.gain := by
  have hnet : FitsWord t.net := (ht.credit h).fitsWord_sub ht.debit
  have hreading := reading_transparent w tx t
  generalize transparent w tx t = d at hreading ⊢
  cases hreading with
  | receipt => exact fitsWord_gain_creditMovements h ht
  | selfTransfer => exact List.forall_mem_singleton.mpr (gain_selfMovement t ▸ hnet)
  | payment => exact fitsWord_gain_debitMovements h ht
  | netOnly => exact List.forall_mem_singleton.mpr (gain_mixedMovement t ▸ hnet)

/-- **What a movement gains fits into a word**, unless it is that of a note. -/
theorem fitsWord_gain_decomposition (h : tx.Sound) (ht : t.Bounded tx) {rule : Rule}
    (hrule : rule ≠ .noteReceipt) :
    ∀ m ∈ (rule.decomposition w tx p t).movements, FitsWord m.gain := by
  cases rule with
  | transparent => exact fitsWord_gain_transparent h ht
  | noteReceipt => exact absurd rfl hrule
  | shieldedSend =>
    refine List.forall_mem_singleton.mpr ?_
    show FitsWord (0 - tx.valueOut)
    exact InMoneyRange.fitsWord_sub (by decide) h.outputs.inMoneyRange
  | poolDeposit =>
    refine List.forall_mem_singleton.mpr ?_
    exact (ht.change h).fitsWord_sub h.entering.inMoneyRange
  | poolWithdrawal =>
    refine List.forall_mem_singleton.mpr ?_
    show FitsWord (t.credit + 0)
    rw [Int.add_zero]
    exact (ht.credit h).fitsWord

/-- **Records that are not those of notes add up to what their movements do.** -/
theorem net_of_ne_noteReceipt {c : Classification} (hc : classify w p tx = .ok c)
    (hrule : Rule.of w tx ≠ .noteReceipt) :
    c.net =
      if w.concerns tx then
        netOf ((Rule.of w tx).decomposition w tx p (w.totals tx)).movements
      else 0 := by
  obtain ⟨hsound, _, hspent, rfl⟩ := classify_eq_ok_iff.mp hc
  have hbounded := WalletView.bounded_totals hsound hspent
  rw [net_classification,
    sum_net_ofMovements tx (fitsWord_gain_decomposition hsound hbounded hrule)]

end ShieldedLedger
