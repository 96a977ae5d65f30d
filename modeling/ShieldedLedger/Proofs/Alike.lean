import ShieldedLedger.Classification

/-!
# What the rules see of a transaction

Once the totals are known, the rules look at a transaction through a few questions to the wallet,
and never at the inputs one by one: they ask whether there are any, whether one of them is owned or
watched, and whether all of them are owned. The outputs are gone through in order. Transfers across
the border of the pool count by their totals, and decrypted outputs by their presence.

So two transactions, each with a wallet of its own, may differ in much and still be classified
alike. The totals have to be compared separately, since it is only for them that the inputs are
valued.

## Main definitions

* `Alike` — two wallets see the same in a transaction each

## Main results

* `Alike.decompose_eq`, `Alike.classification_eq` — what looks alike is classified alike
-/

namespace ShieldedLedger

/-- If two ways to rate the elements of a list agree on them, then so does a search by rating. -/
theorem any_congr_left {α β : Type} {rate rate' : α → β} {l : List α}
    (h : ∀ a ∈ l, rate' a = rate a) (f : β → Bool) :
    (l.any fun a => f (rate' a)) = l.any fun a => f (rate a) := by
  have hmap : l.map rate' = l.map rate := List.map_congr_left h
  simpa only [List.any_map, Function.comp_def] using congrArg (List.any · f) hmap

/-- What the rules see of the second transaction through the second wallet is what they see of the
first transaction through the first wallet. -/
structure Alike (w w' : WalletView) (tx tx' : Transaction) : Prop where
  /-- The hash. -/
  hash_eq : tx'.hash = tx.hash
  /-- The time of receipt. -/
  timeReceived_eq : tx'.timeReceived = tx.timeReceived
  /-- Whether it pays out a block reward. -/
  isCoinbase_eq : tx'.isCoinbase = tx.isCoinbase
  /-- Who stands for a payer without an address. -/
  from_eq : tx'.annotation "from" = tx.annotation "from"
  /-- Who stands for a payee without an address. -/
  to_eq : tx'.annotation "to" = tx.annotation "to"
  /-- The outputs. -/
  outputs_eq : tx'.outputs = tx.outputs
  /-- How much of each output is owned. -/
  outputOwnership_eq : ∀ out ∈ tx.outputs, w'.outputOwnership out = w.outputOwnership out
  /-- Whether there are inputs. -/
  isEmpty_inputs : tx'.inputs.isEmpty = tx.inputs.isEmpty
  /-- Whether any input is owned in some way. -/
  any_inputs : ∀ f : Ownership → Bool,
    (tx'.inputs.any fun i => f (w'.inputOwnership i)) = tx.inputs.any fun i => f (w.inputOwnership i)
  /-- Whether the pool is used. -/
  hasShielded_eq : tx'.hasShielded = tx.hasShielded
  /-- How much enters it. -/
  poolIn_eq : tx'.poolIn = tx.poolIn
  /-- How much leaves it. -/
  poolOut_eq : tx'.poolOut = tx.poolOut
  /-- Whether anything was decrypted. -/
  hasNoteData_eq : tx'.hasNoteData = tx.hasNoteData
  /-- The wallet's notes. -/
  notesOf_eq : w'.notesOf tx.hash = w.notesOf tx.hash

namespace Alike

variable {w w' : WalletView} {tx tx' : Transaction} (h : Alike w w' tx tx')
include h

/-! ### The transparent sides -/

theorem any_outputs (f : Ownership → Bool) :
    (tx'.outputs.any fun out => f (w'.outputOwnership out)) =
      tx.outputs.any fun out => f (w.outputOwnership out) := by
  rw [h.outputs_eq]
  exact any_congr_left h.outputOwnership_eq f

theorem ownsAny_eq : w'.ownsAny tx' = w.ownsAny tx := by
  rw [WalletView.ownsAny, WalletView.ownsAny, h.any_inputs, h.any_outputs]

theorem watchesAny_eq : w'.watchesAny tx' = w.watchesAny tx := by
  rw [WalletView.watchesAny, WalletView.watchesAny, h.any_inputs, h.any_outputs]

theorem ownsAllInputs_eq : w'.ownsAllInputs tx' = w.ownsAllInputs tx := by
  simp only [WalletView.ownsAllInputs, List.all_eq_not_any_not, h.isEmpty_inputs,
    h.any_inputs fun o => !o.isMine]

theorem ownsAllOutputs_eq : w'.ownsAllOutputs tx' = w.ownsAllOutputs tx := by
  simp only [WalletView.ownsAllOutputs, List.all_eq_not_any_not, h.any_outputs fun o => !o.isMine]

theorem ownedOutputs_eq : w'.ownedOutputs tx' = w.ownedOutputs tx := by
  rw [WalletView.ownedOutputs, h.outputs_eq]
  exact List.filter_congr fun out hout => by rw [h.outputOwnership_eq out hout]

theorem foreignOutputs_eq : w'.foreignOutputs tx' = w.foreignOutputs tx := by
  rw [WalletView.foreignOutputs, h.outputs_eq]
  exact List.filter_congr fun out hout => by rw [h.outputOwnership_eq out hout]

theorem valueOut_eq : tx'.valueOut = tx.valueOut := by
  rw [Transaction.valueOut, Transaction.valueOut, h.outputs_eq]

/-! ### The notes -/

theorem shape_eq : Shape.of tx' = Shape.of tx := by
  rw [Shape.of, Shape.of, h.hasShielded_eq, h.isEmpty_inputs, h.outputs_eq]

theorem find_eq : Resolution.find w' tx' = Resolution.find w tx := by
  rw [Resolution.find, Resolution.find, h.shape_eq, h.hash_eq, h.notesOf_eq, h.hasNoteData_eq]

theorem concerns_eq : w'.concerns tx' = w.concerns tx := by
  rw [WalletView.concerns, WalletView.concerns, h.ownsAny_eq, h.hasNoteData_eq, h.find_eq]

/-! ### The rules -/

variable (t : Totals)

theorem observedFee_eq : t.observedFee tx' = t.observedFee tx := by
  rw [Totals.observedFee, Totals.observedFee, h.valueOut_eq, h.poolIn_eq, h.poolOut_eq]

theorem creditMovements_eq : creditMovements w' tx' t = creditMovements w tx t := by
  have hmap : (w.ownedOutputs tx).map (creditMovement w' tx') =
      (w.ownedOutputs tx).map (creditMovement w tx) := by
    refine List.map_congr_left fun out hout => ?_
    rw [creditMovement, creditMovement, h.isCoinbase_eq, h.from_eq,
      h.outputOwnership_eq out (List.mem_filter.mp hout).1]
  rw [creditMovements, creditMovements, h.ownedOutputs_eq, hmap]

theorem selfMovement_eq : selfMovement w' tx' t = selfMovement w tx t := by
  rw [selfMovement, selfMovement, h.observedFee_eq, h.watchesAny_eq]

theorem debitMovements_eq : debitMovements w' tx' t = debitMovements w tx t := by
  have hmovement : debitMovement w' tx' = debitMovement w tx := by
    funext out
    rw [debitMovement, debitMovement, h.to_eq, h.watchesAny_eq]
  rw [debitMovements, debitMovements, h.foreignOutputs_eq, hmovement, h.observedFee_eq,
    depositMovements, depositMovements, h.poolIn_eq, h.poolOut_eq, h.watchesAny_eq]

theorem transparent_eq : transparent w' tx' t = transparent w tx t := by
  rw [transparent, transparent, h.isCoinbase_eq, h.ownsAllInputs_eq, h.ownsAllOutputs_eq,
    h.creditMovements_eq, h.selfMovement_eq, h.debitMovements_eq, mixedMovement, mixedMovement,
    h.watchesAny_eq, h.hash_eq]

theorem unruled_eq : unruled w' tx' t = unruled w tx t := by
  rw [unruled, unruled, h.transparent_eq, h.hash_eq, h.shape_eq]

theorem noteReceipt_eq (kind : RecordKind) (notes : List Note) (debit change : Int) :
    noteReceipt tx' kind notes debit change = noteReceipt tx kind notes debit change := by
  rw [noteReceipt, noteReceipt, h.hash_eq]

theorem shieldedSend_eq (p : Params) (notes : List Note) :
    shieldedSend tx' p notes = shieldedSend tx p notes := by
  rw [shieldedSend, shieldedSend, h.outputs_eq, h.valueOut_eq, h.poolOut_eq, h.hash_eq]

theorem poolDeposit_eq (p : Params) : poolDeposit tx' t p = poolDeposit tx t p := by
  rw [poolDeposit, poolDeposit, h.poolIn_eq]

theorem poolWithdrawal_eq : poolWithdrawal w' tx' t = poolWithdrawal w tx t := by
  rw [poolWithdrawal, poolWithdrawal, h.ownedOutputs_eq, h.watchesAny_eq]

/-- **Every rule makes the same of both.** -/
theorem decompose_eq (p : Params) (r : Resolution) :
    decompose w' tx' p t r = decompose w tx p t r := by
  simp only [decompose, h.shape_eq, h.transparent_eq, h.unruled_eq, h.noteReceipt_eq,
    h.shieldedSend_eq, h.poolDeposit_eq, h.poolWithdrawal_eq, h.ownsAllInputs_eq]

theorem ofMovements_eq (ms : List Movement) :
    Record.ofMovements tx' ms = Record.ofMovements tx ms := by
  have hrecord : Record.ofMovement tx' = Record.ofMovement tx := by
    funext i m
    rw [Record.ofMovement, Record.ofMovement, h.hash_eq, h.timeReceived_eq]
  rw [Record.ofMovements, Record.ofMovements, hrecord]

/-- **What looks alike is classified alike**, given the same totals. -/
theorem classification_eq (p : Params) : classification w' p tx' = classification w p tx := by
  funext t
  simp only [classification, h.concerns_eq, h.find_eq, h.decompose_eq, h.shape_eq,
    h.ofMovements_eq]

end Alike

end ShieldedLedger
