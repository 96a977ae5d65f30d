import ShieldedLedger.Proofs.Rule

/-!
# Watching is as good as owning

A wallet controls an input or an output in one of three ways: not at all, by watching it, or with a
key to spend it. Everything that is decided about a transaction asks only whether the wallet has any
part in it, and the middle way shows in a single place, the flag of a record that tells of watched
outputs. So if the wallet got the keys to all that it merely watches, its ledger would stay as it
is, with that flag gone from every record; and where the ledger cannot be computed, it would be for
the same reason.

## Main definitions

* `WalletView.withKeys` — the wallet with the keys to everything it watches
* `Movement.unwatched`, `Record.unwatched`, `Classification.unwatched` — without the flag

## Main results

* `Rule.of_withKeys`, `Rule.decomposition_withKeys` — the same rule does the same but for the flag
* `classify_withKeys` — and so does the classification as a whole
-/

namespace ShieldedLedger

variable (w : WalletView) (tx : Transaction)

/-! ### Keys -/

namespace Ownership

/-- What becomes of an ownership with the key to what is watched. -/
def withKey : Ownership → Ownership
  | foreign => foreign
  | watchOnly | spendable => spendable

@[simp] theorem isMine_withKey (o : Ownership) : o.withKey.isMine = o.isMine := by
  cases o <;> rfl

@[simp] theorem isWatchOnly_withKey (o : Ownership) : o.withKey.isWatchOnly = false := by
  cases o <;> rfl

end Ownership

namespace WalletView

/-- The wallet with the keys to everything that it watches. It answers all other questions as
before. -/
def withKeys (w : WalletView) : WalletView :=
  { w with
    inputOwnership := fun i => (w.inputOwnership i).withKey
    outputOwnership := fun out => (w.outputOwnership out).withKey }

@[simp] theorem isMine_inputOwnership_withKeys (i : TxInput) :
    (w.withKeys.inputOwnership i).isMine = (w.inputOwnership i).isMine :=
  Ownership.isMine_withKey _

@[simp] theorem isMine_outputOwnership_withKeys (out : TxOutput) :
    (w.withKeys.outputOwnership out).isMine = (w.outputOwnership out).isMine :=
  Ownership.isMine_withKey _

@[simp] theorem isWatchOnly_outputOwnership_withKeys (out : TxOutput) :
    (w.withKeys.outputOwnership out).isWatchOnly = false :=
  Ownership.isWatchOnly_withKey _

/-! ### What the wallet owns -/

@[simp] theorem ownsAny_withKeys : w.withKeys.ownsAny tx = w.ownsAny tx := by
  simp [ownsAny]

@[simp] theorem ownsAllInputs_withKeys : w.withKeys.ownsAllInputs tx = w.ownsAllInputs tx := by
  simp [ownsAllInputs]

@[simp] theorem ownsAllOutputs_withKeys : w.withKeys.ownsAllOutputs tx = w.ownsAllOutputs tx := by
  simp [ownsAllOutputs]

@[simp] theorem ownedOutputs_withKeys : w.withKeys.ownedOutputs tx = w.ownedOutputs tx := by
  simp [ownedOutputs]

@[simp] theorem foreignOutputs_withKeys : w.withKeys.foreignOutputs tx = w.foreignOutputs tx := by
  simp [foreignOutputs]

/-- Nothing is merely watched any more. -/
@[simp] theorem watchesAny_withKeys : w.withKeys.watchesAny tx = false := by
  simp [watchesAny, withKeys]

/-- Each input adds as much as before, or fails for the same reason. -/
theorem spent_withKeys : w.withKeys.spent tx = w.spent tx := by
  have hstep : w.withKeys.addSpent tx.hash = w.addSpent tx.hash := by
    funext total i
    rw [addSpent, addSpent, isMine_inputOwnership_withKeys]
    rfl
  rw [spent, spent, hstep]

theorem totals_withKeys : w.withKeys.totals tx = w.totals tx := by
  have hspent : w.withKeys.spentOutputs tx = w.spentOutputs tx := by
    simp only [spentOutputs, spentBy, isMine_inputOwnership_withKeys]
    rfl
  have hchange : w.withKeys.changeOutputs tx = w.changeOutputs tx := by
    rw [changeOutputs, ownedOutputs_withKeys]
    rfl
  rw [totals, hspent, hchange, ownedOutputs_withKeys]
  rfl

theorem concerns_withKeys : w.withKeys.concerns tx = w.concerns tx := by
  rw [concerns, ownsAny_withKeys]
  rfl

end WalletView

theorem Rule.of_withKeys : Rule.of w.withKeys tx = Rule.of w tx := by
  rw [Rule.of, WalletView.ownsAllInputs_withKeys]
  rfl

/-! ### Movements -/

/-- The same movement, without a word about watched outputs. -/
def Movement.unwatched (m : Movement) : Movement := { m with watchOnly := false }

/-- What is done to the first movement is done to it without the flag as well. -/
theorem map_unwatched_modifyHead {f : Movement → Movement}
    (h : ∀ m, (f m).unwatched = f m.unwatched) (ms : List Movement) :
    (ms.modifyHead f).map .unwatched = (ms.map .unwatched).modifyHead f := by
  cases ms with
  | nil => rfl
  | cons m ms => rw [List.modifyHead_cons, List.map_cons, List.map_cons, List.modifyHead_cons, h]

variable (t : Totals)

theorem creditMovements_withKeys :
    creditMovements w.withKeys tx t = (creditMovements w tx t).map .unwatched := by
  have hmovement : creditMovement w.withKeys tx = Movement.unwatched ∘ creditMovement w tx := by
    funext out
    rw [creditMovement, WalletView.isWatchOnly_outputOwnership_withKeys]
    rfl
  have hhead : ∀ m : Movement, Movement.unwatched { m with debit := -t.debit } =
      { m.unwatched with debit := -t.debit } := fun _ => rfl
  rw [creditMovements, creditMovements, map_unwatched_modifyHead hhead, List.map_map, hmovement,
    WalletView.ownedOutputs_withKeys]

theorem unwatched_charged (fee : Int) (m : Movement) :
    (m.charged fee).unwatched = m.unwatched.charged fee := by
  rw [Movement.charged, Movement.charged]
  split <;> rfl

theorem depositMovements_withKeys :
    depositMovements w.withKeys tx = (depositMovements w tx).map .unwatched := by
  simp only [depositMovements, WalletView.watchesAny_withKeys]
  split <;> rfl

theorem debitMovements_withKeys :
    debitMovements w.withKeys tx t = (debitMovements w tx t).map .unwatched := by
  have hmovement : debitMovement w.withKeys tx = Movement.unwatched ∘ debitMovement w tx := by
    funext out
    rw [debitMovement, WalletView.watchesAny_withKeys]
    rfl
  rw [debitMovements, debitMovements, List.map_append,
    map_unwatched_modifyHead (unwatched_charged _), List.map_map, hmovement,
    WalletView.foreignOutputs_withKeys, depositMovements_withKeys]

/-- Notes are not watched. -/
theorem map_unwatched_receiptMovements (kind : RecordKind) (notes : List Note)
    (debit change : Int) :
    (receiptMovements kind notes debit change).map .unwatched =
      receiptMovements kind notes debit change := by
  have hhead : ∀ m : Movement,
      Movement.unwatched { m with debit, credit := wrap (m.credit - change) } =
        { m.unwatched with debit, credit := wrap (m.unwatched.credit - change) } := fun _ => rfl
  rw [receiptMovements, map_unwatched_modifyHead hhead, List.map_map]
  rfl

/-! ### Rules -/

/-- The same decomposition, without a word about watched outputs. -/
def Decomposition.unwatched (d : Decomposition) : Decomposition :=
  { d with movements := d.movements.map .unwatched }

theorem unwatched_noteReceipt (kind : RecordKind) (notes : List Note) (debit change : Int) :
    (noteReceipt tx kind notes debit change).unwatched =
      noteReceipt tx kind notes debit change := by
  show { noteReceipt tx kind notes debit change with
    movements := (receiptMovements kind notes debit change).map .unwatched } = _
  rw [map_unwatched_receiptMovements]
  rfl

theorem transparent_withKeys :
    transparent w.withKeys tx t = (transparent w tx t).unwatched := by
  simp only [transparent, WalletView.ownsAllInputs_withKeys, WalletView.ownsAllOutputs_withKeys,
    creditMovements_withKeys, debitMovements_withKeys, selfMovement, mixedMovement,
    WalletView.watchesAny_withKeys]
  split_ifs <;> rfl

/-- **Each rule does the same but for the flag.** -/
theorem Rule.decomposition_withKeys (p : Params) (rule : Rule) :
    rule.decomposition w.withKeys tx p t = (rule.decomposition w tx p t).unwatched := by
  cases rule with
  | transparent => exact transparent_withKeys w tx t
  | noteReceipt => exact (unwatched_noteReceipt tx tx.receiptKind (w.notesOf tx.hash) _ _).symm
  | shieldedSend => rfl
  | poolDeposit => rfl
  | poolWithdrawal =>
    rw [decomposition, ShieldedLedger.poolWithdrawal, WalletView.ownedOutputs_withKeys,
      WalletView.watchesAny_withKeys]
    rfl

/-! ### Classifications -/

/-- The same record, without a word about watched outputs. -/
def Record.unwatched (r : Record) : Record := { r with watchOnly := false }

/-- The same classification, without a word about watched outputs. -/
def Classification.unwatched (c : Classification) : Classification :=
  { c with records := c.records.map .unwatched }

theorem Record.ofMovements_map_unwatched (ms : List Movement) :
    ofMovements tx (ms.map .unwatched) = (ofMovements tx ms).map .unwatched :=
  List.ext_getElem (by simp) fun i _ _ => by
    simp [ofMovements, ofMovement, unwatched, Movement.unwatched]

theorem classification_withKeys (p : Params) :
    classification w.withKeys p tx (w.withKeys.totals tx) =
      (classification w p tx (w.totals tx)).unwatched := by
  rw [classification_eq, classification_eq, WalletView.concerns_withKeys, Rule.of_withKeys,
    WalletView.totals_withKeys, Rule.decomposition_withKeys]
  split
  · simp only [Decomposition.unwatched, Classification.unwatched,
      Record.ofMovements_map_unwatched]
  · rfl

/-- **With the keys to what it watches, the wallet keeps the same ledger**, in which nothing is
flagged as watched. If a transaction cannot be classified, it could not be before, and for the same
reason. -/
theorem classify_withKeys (p : Params) :
    classify w.withKeys p tx = (classify w p tx).map Classification.unwatched := by
  rw [classify_eq_map, classify_eq_map, WalletView.spent_withKeys, classification_withKeys]
  cases (do tx.checkAmounts; w.spent tx : Except LedgerError Int) <;> rfl

end ShieldedLedger
