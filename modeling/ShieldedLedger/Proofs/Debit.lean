import ShieldedLedger.Proofs.Bounds

/-!
# The sign of a debit

A debit is value that leaves the wallet, so it should be zero or negative. Each rule takes it from
other sums, and whether the sign comes out right rests on what the wallet owns being worth no more
than the transaction as a whole, and on change being a part of what it owns.

One of the rules has nothing to rest on. A receipt of notes is charged with the owned inputs less
the change, and nothing says that the change is paid for by these inputs: where somebody else
shields into the wallet and pays its change address on the side, the first record of the receipt
carries a debit that is positive.

## Main definitions

* `DebitsNonpos` — movements none of which carries a positive debit

## Main results

* `debitsNonpos_transparent` — the transparent rule keeps the sign
* `debitsNonpos_decomposition` — and so does every rule but the receipt of notes
* `debit_nonpos_iff` — which debits are positive, and when there are none
-/

namespace ShieldedLedger

variable {w : WalletView} {tx : Transaction} {p : Params} {t : Totals}

/-! ### Movements without a positive debit -/

/-- None of the movements carries a positive debit. -/
def DebitsNonpos (ms : List Movement) : Prop := ∀ m ∈ ms, m.debit ≤ 0

theorem debitsNonpos_singleton {m : Movement} : DebitsNonpos [m] ↔ m.debit ≤ 0 := by
  simp [DebitsNonpos]

theorem DebitsNonpos.append {ms ns : List Movement} (hms : DebitsNonpos ms)
    (hns : DebitsNonpos ns) : DebitsNonpos (ms ++ ns) :=
  fun m hm => (List.mem_append.mp hm).elim (hms m) (hns m)

theorem debitsNonpos_map {α : Type} {f : α → Movement} {l : List α}
    (h : ∀ a ∈ l, (f a).debit ≤ 0) : DebitsNonpos (l.map f) := by
  intro m hm
  obtain ⟨a, ha, rfl⟩ := List.mem_map.mp hm
  exact h a ha

/-- A change made to the first movement is the only one to look at. -/
theorem DebitsNonpos.modifyHead {f : Movement → Movement} {ms : List Movement}
    (h : DebitsNonpos ms) (hf : ∀ m ∈ ms, (f m).debit ≤ 0) : DebitsNonpos (ms.modifyHead f) :=
  forall_mem_modifyHead h hf

/-! ### The transparent side -/

theorem debitsNonpos_creditMovements (hdebit : 0 ≤ t.debit) :
    DebitsNonpos (creditMovements w tx t) := by
  have hzero : DebitsNonpos ((w.ownedOutputs tx).map (creditMovement w tx)) :=
    debitsNonpos_map fun _ _ => Int.le_refl 0
  exact hzero.modifyHead fun m _ => show -t.debit ≤ 0 by omega

/-- A charge only makes a debit more negative. -/
theorem debit_charged_le (fee : Int) (m : Movement) : (m.charged fee).debit ≤ m.debit := by
  rw [Movement.charged]
  split
  · next hfee => exact show m.debit - fee ≤ m.debit by omega
  · exact Int.le_refl _

theorem debitsNonpos_depositMovements (w : WalletView) (tx : Transaction) :
    DebitsNonpos (depositMovements w tx) := by
  rw [depositMovements]
  by_cases hin : 0 < tx.poolIn - tx.poolOut
  · rw [if_pos hin, debitsNonpos_singleton]
    exact show -(tx.poolIn - tx.poolOut) ≤ 0 by omega
  · rw [if_neg hin]
    exact fun _ h => absurd h List.not_mem_nil

theorem debitsNonpos_debitMovements (h : tx.Sound) : DebitsNonpos (debitMovements w tx t) := by
  have hpaid : DebitsNonpos ((w.foreignOutputs tx).map (debitMovement w tx)) := by
    refine debitsNonpos_map fun out hout => ?_
    have hvalue : 0 ≤ out.value := (h.inMoneyRange (List.mem_of_mem_filter hout)).1
    exact show -out.value ≤ 0 by omega
  have hcharged := hpaid.modifyHead (f := .charged (t.observedFee tx)) fun m hm =>
    Int.le_trans (debit_charged_le _ m) (hpaid m hm)
  exact hcharged.append (debitsNonpos_depositMovements w tx)

/-- **The transparent rule keeps the sign.** Where nothing is gained, the change is covered by the
owned inputs, and a net is no gain. -/
theorem debitsNonpos_transparent (h : tx.Sound) (hdebit : 0 ≤ (w.totals tx).debit) :
    DebitsNonpos (transparent w tx (w.totals tx)).movements := by
  have hchange := WalletView.change_le_credit (w := w) h
  have hreading := reading_transparent w tx (w.totals tx)
  generalize transparent w tx (w.totals tx) = d at hreading ⊢
  cases hreading with
  | receipt => exact debitsNonpos_creditMovements hdebit
  | selfTransfer hgain =>
    have hnet : (w.totals tx).credit - (w.totals tx).debit ≤ 0 :=
      Int.not_lt.mp fun hpos => hgain (.inl hpos)
    exact debitsNonpos_singleton.mpr
      (show -((w.totals tx).debit - (w.totals tx).change) ≤ 0 by omega)
  | payment => exact debitsNonpos_debitMovements h
  | netOnly h => exact debitsNonpos_singleton.mpr (Int.not_lt.mp fun hpos => h.1 (.inl hpos))

/-! ### The pool -/

/-- Only a receipt of notes can have a positive debit. -/
theorem debitsNonpos_decomposition (h : tx.Sound) (hdebit : 0 ≤ (w.totals tx).debit) {rule : Rule}
    (hrule : rule ≠ .noteReceipt) :
    DebitsNonpos (rule.decomposition w tx p (w.totals tx)).movements := by
  cases rule with
  | transparent => exact debitsNonpos_transparent h hdebit
  | noteReceipt => exact absurd rfl hrule
  | shieldedSend =>
    have hpaid : 0 ≤ tx.valueOut := h.outputs.total_nonneg
    exact debitsNonpos_singleton.mpr (show -tx.valueOut ≤ 0 by omega)
  | poolDeposit =>
    have hin : 0 ≤ tx.poolIn := h.entering.total_nonneg
    exact debitsNonpos_singleton.mpr (show -tx.poolIn ≤ 0 by omega)
  | poolWithdrawal => exact debitsNonpos_singleton.mpr (Int.le_refl 0)

theorem receiptMovements_ne_nil {kind : RecordKind} {notes : List Note} (h : notes ≠ [])
    (debit change : Int) : receiptMovements kind notes debit change ≠ [] := by
  rw [receiptMovements, ne_eq, List.modifyHead_eq_nil_iff, List.map_eq_nil_iff]
  exact h

/-- A receipt puts its debit on the first movement and none on the others. -/
theorem debit_getElem?_receiptMovements {kind : RecordKind} {notes : List Note}
    {debit change : Int} {i : Nat} {m : Movement}
    (h : (receiptMovements kind notes debit change)[i]? = some m) :
    m.debit = if i = 0 then debit else 0 := by
  cases notes with
  | nil => cases h
  | cons note notes =>
    rw [receiptMovements, List.map_cons, List.modifyHead_cons] at h
    cases i with
    | zero =>
      cases h
      rfl
    | succ i =>
      rw [List.getElem?_cons_succ, List.getElem?_map] at h
      obtain ⟨_, _, rfl⟩ := Option.map_eq_some_iff.mp h
      rfl

/-! ### Records -/

theorem Record.exists_index_eq_zero (tx : Transaction) {ms : List Movement} (h : ms ≠ []) :
    ∃ r ∈ ofMovements tx ms, r.index = 0 := by
  obtain ⟨m, ms, rfl⟩ := List.exists_cons_of_ne_nil h
  exact ⟨ofMovement tx 0 m, mem_ofMovements_iff.mpr ⟨0, m, rfl, rfl⟩, rfl⟩

variable {c : Classification}

/-- Under every rule but the receipt of notes a debit is zero or negative. -/
theorem debit_nonpos_of_ne_noteReceipt (hc : classify w p tx = .ok c)
    (hrule : Rule.of w tx ≠ .noteReceipt) : ∀ r ∈ c.records, r.debit ≤ 0 := by
  obtain ⟨hsound, _, hspent, rfl⟩ := classify_eq_ok_iff.mp hc
  rw [classification_records]
  intro r hr
  split at hr
  · obtain ⟨i, m, hm, rfl⟩ := Record.mem_ofMovements_iff.mp hr
    exact debitsNonpos_decomposition hsound hspent.total_nonneg hrule m (List.mem_of_getElem? hm)
  · cases hr

/-- A receipt of notes is charged on its first record. -/
theorem debit_of_noteReceipt (hc : classify w p tx = .ok c)
    (hrule : Rule.of w tx = .noteReceipt) :
    (∃ r ∈ c.records, r.index = 0) ∧
      ∀ r ∈ c.records, r.debit =
        if r.index = 0 then (w.totals tx).change - (w.totals tx).debit else 0 := by
  obtain ⟨_, _, _, rfl⟩ := classify_eq_ok_iff.mp hc
  obtain ⟨_, hdata, hnotes, _⟩ := Rule.of_eq_noteReceipt_iff.mp hrule
  rw [classification_records, if_pos (WalletView.concerns_of_hasNoteData hdata), hrule]
  refine ⟨Record.exists_index_eq_zero tx (receiptMovements_ne_nil hnotes _ _), fun r hr => ?_⟩
  obtain ⟨i, m, hm, rfl⟩ := Record.mem_ofMovements_iff.mp hr
  have hdebit := debit_getElem?_receiptMovements hm
  rw [Int.neg_sub] at hdebit
  exact hdebit

/-- Change that is worth more than the owned inputs can be received only next to foreign inputs. -/
theorem shape_of_debit_lt_change (hrule : Rule.of w tx = .noteReceipt)
    (hdebit : 0 ≤ (w.totals tx).debit) (hlt : (w.totals tx).debit < (w.totals tx).change) :
    Shape.of tx = .shieldedBoth := by
  obtain ⟨hshielded, _, _, hin⟩ := Rule.of_eq_noteReceipt_iff.mp hrule
  have hout : tx.outputs ≠ [] := by
    intro hnil
    have hzero := WalletView.change_eq_zero_of_nil (w := w) hnil
    omega
  exact Shape.of_eq_shieldedBoth_iff.mpr ⟨hshielded, fun hnil => hout (hin hnil), hout⟩

/-- **A debit is positive only on the first record of a receipt of notes**, and there just if the
change is worth more than the owned inputs. -/
theorem debit_nonpos_iff (hc : classify w p tx = .ok c) :
    ((∀ r ∈ c.records, r.debit ≤ 0) ↔
      (Rule.of w tx = .noteReceipt → (w.totals tx).change ≤ (w.totals tx).debit)) ∧
    ∀ r ∈ c.records, 0 < r.debit →
      Rule.of w tx = .noteReceipt ∧ Shape.of tx = .shieldedBoth ∧ r.index = 0 ∧
        r.debit = (w.totals tx).change - (w.totals tx).debit := by
  have hspent : 0 ≤ (w.totals tx).debit := (classify_eq_ok_iff.mp hc).2.2.1.total_nonneg
  by_cases hrule : Rule.of w tx = .noteReceipt
  · obtain ⟨⟨first, hfirst, hindex⟩, hdebit⟩ := debit_of_noteReceipt hc hrule
    refine ⟨⟨fun h _ => ?_, fun h r hr => ?_⟩, fun r hr hpos => ?_⟩
    · have hle := h first hfirst
      rw [hdebit first hfirst, if_pos hindex] at hle
      omega
    · have hle := h hrule
      rw [hdebit r hr]
      split <;> omega
    · rw [hdebit r hr] at hpos ⊢
      split at hpos
      · next hzero =>
        have hshape := shape_of_debit_lt_change hrule hspent (by omega)
        exact ⟨hrule, hshape, hzero, if_pos hzero⟩
      · omega
  · have hnonpos := debit_nonpos_of_ne_noteReceipt hc hrule
    refine ⟨⟨fun _ h => absurd h hrule, fun _ => hnonpos⟩, fun r hr hpos => ?_⟩
    have hle := hnonpos r hr
    omega

/-- A transaction that moves 65 into the pool, into a note that the wallet decrypted, and pays 30 to
a change address. -/
def Transaction.sampleGift : Transaction :=
  { Transaction.blank ⟨List.replicate 32 1, rfl⟩ 0 with
    inputs := [⟨⟨⟨List.replicate 32 2, rfl⟩, 0⟩⟩]
    outputs := [⟨30, .address "change"⟩]
    shielded := [⟨65, 0, []⟩]
    noteData := [⟨0, 0⟩] }

/-- The wallet that receives it, and does not own what it spends. -/
def WalletSnapshot.sampleReceiver : WalletSnapshot :=
  (empty.ownChange "change").addNote "z" ⟨Transaction.sampleGift.hash, 65, 1⟩

/-- The receiver is credited with a positive debit; a wallet that owns what is spent, too, is
not. -/
theorem debit_nonpos_iff_sampleGift :
    (∃ c, classify WalletSnapshot.sampleReceiver.view .standard .sampleGift = .ok c ∧
      ¬∀ r ∈ c.records, r.debit ≤ 0) ∧
    ∃ c, classify (WalletSnapshot.sampleReceiver.addCoin
          ⟨⟨List.replicate 32 2, rfl⟩, 0⟩ ⟨100, .address "change"⟩).view .standard .sampleGift =
        .ok c ∧ ∀ r ∈ c.records, r.debit ≤ 0 := by
  have hc : classify WalletSnapshot.sampleReceiver.view .standard .sampleGift = .ok _ := rfl
  have hc' : classify (WalletSnapshot.sampleReceiver.addCoin
      ⟨⟨List.replicate 32 2, rfl⟩, 0⟩ ⟨100, .address "change"⟩).view .standard .sampleGift =
        .ok _ := rfl
  refine ⟨⟨_, hc, fun h => ?_⟩, _, hc', (debit_nonpos_iff hc').1.mpr fun _ => by decide⟩
  exact absurd ((debit_nonpos_iff hc).1.mp h rfl) (by decide)

/-- The first record of the gift shows 30 leaving the wallet as a positive amount. -/
theorem exists_debit_pos :
    ∃ c, classify WalletSnapshot.sampleReceiver.view .standard .sampleGift = .ok c ∧
      ∃ r ∈ c.records, r.debit = 30 :=
  ⟨_, rfl, _, List.mem_cons_self, rfl⟩

end ShieldedLedger
