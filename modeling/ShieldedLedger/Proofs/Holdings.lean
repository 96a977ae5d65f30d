import ShieldedLedger.Proofs.CheckedSum
import ShieldedLedger.Proofs.Traversal
import ShieldedLedger.Totals

/-!
# What the wallet owns of a transaction

The wallet's totals are computed by a fold that may fail: an owned input is worth what the output
it spends is worth, and that output may be unknown or may not fit into the money range. This file
separates the two. `WalletView.totals` are plain sums that always exist, and the fold returns
exactly these sums whenever it returns anything.

## Main definitions

* `WalletView.spentOutputs` — the outputs spent by the wallet's inputs
* `WalletView.KnowsSpent` — the wallet knows all of them
* `WalletView.totals` — what it owns, as sums in the integers

## Main results

* `WalletView.spent_eq_error_iff` — the only reason to fail, for a wallet that knows what it spends
* `Totals.of_eq_ok_iff` — when the totals exist, and that they are these sums
* `Transaction.valueOut_eq` — outputs are owned or foreign
-/

namespace ShieldedLedger

namespace WalletView

variable {w : WalletView} {tx : Transaction}

/-- The outputs that the owned ones among some inputs spend, as far as the wallet knows them. -/
def spentBy (w : WalletView) (inputs : List TxInput) : List TxOutput :=
  (inputs.filter fun i => (w.inputOwnership i).isMine).filterMap fun i =>
    w.previousOutput i.prevout

/-- The outputs that the owned inputs of a transaction spend. -/
def spentOutputs (w : WalletView) (tx : Transaction) : List TxOutput := w.spentBy tx.inputs

/-- The wallet knows every output that its own inputs spend. -/
def KnowsSpent (w : WalletView) (tx : Transaction) : Prop :=
  ∀ i ∈ tx.inputs, (w.inputOwnership i).isMine → ∃ out, w.previousOutput i.prevout = some out

/-- What the wallet owns of a transaction: plain sums, which exist whether or not they can be
trusted. -/
def totals (w : WalletView) (tx : Transaction) : Totals where
  debit := ((w.spentOutputs tx).map (·.value)).sum
  credit := ((w.ownedOutputs tx).map (·.value)).sum
  change := ((w.changeOutputs tx).map (·.value)).sum

/-! ### The fold over the inputs -/

theorem spentBy_cons_of_mine {i : TxInput} {out : TxOutput} (hmine : (w.inputOwnership i).isMine)
    (hout : w.previousOutput i.prevout = some out) (inputs : List TxInput) :
    w.spentBy (i :: inputs) = out :: w.spentBy inputs := by
  simp [spentBy, hmine, hout]

theorem spentBy_cons_of_not_mine {i : TxInput} (hmine : ¬(w.inputOwnership i).isMine)
    (inputs : List TxInput) : w.spentBy (i :: inputs) = w.spentBy inputs := by
  simp [spentBy, hmine]

/-- A fold that succeeds has looked up the spent output of every owned input. -/
theorem known_of_foldlM_addSpent {txid : TxHash} {inputs : List TxInput} {total d : Int}
    (h : inputs.foldlM (w.addSpent txid) total = .ok d) :
    ∀ i ∈ inputs, (w.inputOwnership i).isMine → ∃ out, w.previousOutput i.prevout = some out := by
  induction inputs generalizing total with
  | nil => simp
  | cons i inputs ih =>
    obtain ⟨sum, hstep, hrest⟩ := bind_eq_ok_iff.mp (List.foldlM_cons.symm.trans h)
    rw [List.forall_mem_cons]
    refine ⟨fun hmine => ?_, ih hrest⟩
    rw [addSpent, if_pos hmine] at hstep
    cases hout : w.previousOutput i.prevout with
    | none =>
      rw [hout] at hstep
      cases hstep
    | some out => exact ⟨out, rfl⟩

/-- Once all spent outputs are known, the fold adds up their values and does nothing else. -/
theorem foldlM_addSpent {txid : TxHash} {inputs : List TxInput}
    (hknown : ∀ i ∈ inputs, (w.inputOwnership i).isMine →
      ∃ out, w.previousOutput i.prevout = some out) (total : Int) :
    inputs.foldlM (w.addSpent txid) total =
      match Transaction.firstBad? total ((w.spentBy inputs).map (·.value)) with
      | some value => .error (.amountOutOfRange txid value)
      | none => .ok (total + ((w.spentBy inputs).map (·.value)).sum) := by
  induction inputs generalizing total with
  | nil =>
    rw [List.foldlM_nil, spentBy, List.filter_nil, List.filterMap_nil, List.map_nil, List.sum_nil,
      Int.add_zero]
    rfl
  | cons i inputs ih =>
    obtain ⟨hfirst, hrest⟩ := List.forall_mem_cons.mp hknown
    rw [List.foldlM_cons, addSpent]
    by_cases hmine : (w.inputOwnership i).isMine
    · obtain ⟨out, hout⟩ := hfirst hmine
      rw [if_pos hmine, hout, spentBy_cons_of_mine hmine hout, List.map_cons, List.sum_cons,
        Transaction.firstBad?]
      dsimp only
      cases hadd : addMoney total out.value with
      | none => rfl
      | some sum =>
        obtain ⟨_, _, rfl⟩ := addMoney_eq_some_iff.mp hadd
        rw [← Int.add_assoc]
        exact ih hrest _
    · rw [if_neg hmine, spentBy_cons_of_not_mine hmine]
      exact ih hrest total

theorem knowsSpent_of_spent_eq_ok {d : Int} (h : w.spent tx = .ok d) : w.KnowsSpent tx :=
  known_of_foldlM_addSpent h

/-- What the owned inputs are worth, if the wallet knows what they spend. -/
theorem spent_eq (hknown : w.KnowsSpent tx) :
    w.spent tx =
      match Transaction.firstBad? 0 ((w.spentOutputs tx).map (·.value)) with
      | some value => .error (.amountOutOfRange tx.hash value)
      | none => .ok (w.totals tx).debit := by
  rw [spent, foldlM_addSpent hknown, Int.zero_add]
  rfl

theorem spent_eq_ok_iff {d : Int} :
    w.spent tx = .ok d ↔
      w.KnowsSpent tx ∧ SoundAmounts ((w.spentOutputs tx).map (·.value)) ∧
        d = (w.totals tx).debit := by
  rw [← firstBad?_eq_none_iff]
  constructor
  · intro h
    have hknown := knowsSpent_of_spent_eq_ok h
    rw [spent_eq hknown] at h
    split at h
    · cases h
    · next hsound => exact ⟨hknown, hsound, (Except.ok.inj h).symm⟩
  · rintro ⟨hknown, hsound, rfl⟩
    rw [spent_eq hknown, hsound]

/-- For a wallet that knows what it spends, only an amount out of range stops the fold. -/
theorem spent_eq_error_iff (hknown : w.KnowsSpent tx) {e : LedgerError} :
    w.spent tx = .error e ↔
      ∃ v, FirstUnsound ((w.spentOutputs tx).map (·.value)) v ∧
        e = .amountOutOfRange tx.hash v := by
  rw [spent_eq hknown]
  simp only [← firstBad?_eq_some_iff]
  split
  · next v hv =>
    rw [hv]
    exact ⟨fun h => ⟨v, rfl, (Except.error.inj h).symm⟩, fun ⟨u, hu, he⟩ => by
      rw [he, Option.some.inj hu]⟩
  · next hsound =>
    rw [hsound]
    exact ⟨nofun, fun ⟨_, hv, _⟩ => nomatch hv⟩

end WalletView

/-! ### The totals -/

variable {w : WalletView} {tx : Transaction}

/-- **Totals that exist are plain sums.** -/
theorem Totals.of_eq_ok_iff {t : Totals} :
    Totals.of w tx = .ok t ↔
      w.KnowsSpent tx ∧ SoundAmounts ((w.spentOutputs tx).map (·.value)) ∧ t = w.totals tx := by
  rw [Totals.of, bind_pure_eq_ok_iff]
  constructor
  · rintro ⟨d, hd, rfl⟩
    obtain ⟨hknown, hsound, rfl⟩ := WalletView.spent_eq_ok_iff.mp hd
    exact ⟨hknown, hsound, rfl⟩
  · rintro ⟨hknown, hsound, rfl⟩
    exact ⟨_, WalletView.spent_eq_ok_iff.mpr ⟨hknown, hsound, rfl⟩, rfl⟩

/-- The totals exist unless the debit cannot be known. -/
theorem Totals.of_eq_error_iff {e : LedgerError} :
    Totals.of w tx = .error e ↔ w.spent tx = .error e :=
  bind_pure_eq_error_iff

/-- Every output is owned or foreign. -/
theorem Transaction.valueOut_eq (w : WalletView) (tx : Transaction) :
    tx.valueOut = (w.totals tx).credit + ((w.foreignOutputs tx).map (·.value)).sum :=
  (sum_map_filter_add_sum_map_filter_not (fun out => (w.outputOwnership out).isMine) (·.value)
    tx.outputs).symm

namespace WalletView

/-! ### Who owns what -/

theorem ownsAllInputs_iff :
    w.ownsAllInputs tx = true ↔
      tx.inputs ≠ [] ∧ ∀ i ∈ tx.inputs, (w.inputOwnership i).isMine := by
  simp [ownsAllInputs]

theorem ownsAllOutputs_iff :
    w.ownsAllOutputs tx = true ↔ ∀ out ∈ tx.outputs, (w.outputOwnership out).isMine := by
  simp [ownsAllOutputs]

theorem foreignOutputs_ne_nil_iff :
    w.foreignOutputs tx ≠ [] ↔ ∃ out ∈ tx.outputs, ¬(w.outputOwnership out).isMine := by
  simp [foreignOutputs, List.filter_eq_nil_iff]

/-- A wallet without owned inputs spends nothing. -/
theorem debit_eq_zero (h : ∀ i ∈ tx.inputs, ¬(w.inputOwnership i).isMine) :
    (w.totals tx).debit = 0 := by
  have hnil : w.spentOutputs tx = [] := by
    rw [spentOutputs, spentBy, List.filter_eq_nil_iff.mpr h, List.filterMap_nil]
  rw [totals, hnil]
  rfl

theorem credit_eq_zero (h : w.ownedOutputs tx = []) : (w.totals tx).credit = 0 := by
  rw [totals, h]
  rfl

theorem debit_eq_zero_of_nil (h : tx.inputs = []) : (w.totals tx).debit = 0 :=
  debit_eq_zero (by simp [h])

theorem credit_eq_zero_of_nil (h : tx.outputs = []) : (w.totals tx).credit = 0 :=
  credit_eq_zero (by rw [ownedOutputs, h, List.filter_nil])

theorem change_eq_zero_of_nil (h : tx.outputs = []) : (w.totals tx).change = 0 := by
  rw [totals, changeOutputs, ownedOutputs, h]
  rfl

end WalletView

end ShieldedLedger
