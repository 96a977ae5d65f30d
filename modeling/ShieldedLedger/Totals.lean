import ShieldedLedger.Error
import ShieldedLedger.View

/-!
# The wallet's part in the transparent side

How much of a transaction's transparent side the wallet owns, as totals. Owned inputs are valued by
the outputs they spend, so the wallet must know those outputs and their values must be sound.

## Main definitions

* `WalletView.ownedOutputs`, `WalletView.foreignOutputs`
* `WalletView.spent`: the value of the owned inputs, or why it cannot be known
* `Totals`, `Totals.of`
-/

namespace ShieldedLedger

namespace WalletView

/-- The outputs that the wallet owns, in order. -/
def ownedOutputs (w : WalletView) (tx : Transaction) : List TxOutput :=
  tx.outputs.filter fun out => (w.outputOwnership out).isMine

/-- The outputs that the wallet does not own, in order. -/
def foreignOutputs (w : WalletView) (tx : Transaction) : List TxOutput :=
  tx.outputs.filter fun out => !(w.outputOwnership out).isMine

/-- The owned outputs that pay change, in order. -/
def changeOutputs (w : WalletView) (tx : Transaction) : List TxOutput :=
  (w.ownedOutputs tx).filter w.isChange

/-- Adds what an input spends to a running total, if the wallet owns the input. -/
def addSpent (w : WalletView) (tx : TxHash) (total : Int) (input : TxInput) :
    Except LedgerError Int :=
  if (w.inputOwnership input).isMine then
    match w.previousOutput input.prevout with
    | none => .error (.missingPrevout input.prevout)
    | some prev =>
      match addMoney total prev.value with
      | none => .error (.amountOutOfRange tx prev.value)
      | some sum => .ok sum
  else .ok total

/-- The value of the owned inputs. The first input whose spent output is unknown, or whose value
leaves the money range, makes it unknown. -/
def spent (w : WalletView) (tx : Transaction) : Except LedgerError Int :=
  tx.inputs.foldlM (w.addSpent tx.hash) 0

/-- The wallet has a part in some input or output. -/
def ownsAny (w : WalletView) (tx : Transaction) : Bool :=
  tx.inputs.any (fun i => (w.inputOwnership i).isMine)
    || tx.outputs.any fun out => (w.outputOwnership out).isMine

/-- The wallet merely watches some input or output. -/
def watchesAny (w : WalletView) (tx : Transaction) : Bool :=
  tx.inputs.any (fun i => (w.inputOwnership i).isWatchOnly)
    || tx.outputs.any fun out => (w.outputOwnership out).isWatchOnly

/-- There are inputs, and the wallet owns all of them. -/
def ownsAllInputs (w : WalletView) (tx : Transaction) : Bool :=
  !tx.inputs.isEmpty && tx.inputs.all fun i => (w.inputOwnership i).isMine

/-- The wallet owns all outputs, if there are any. -/
def ownsAllOutputs (w : WalletView) (tx : Transaction) : Bool :=
  tx.outputs.all fun out => (w.outputOwnership out).isMine

end WalletView

/-- What the wallet owns of a transaction's transparent side. -/
structure Totals where
  /-- The value of the owned inputs. -/
  debit : Int
  /-- The value of the owned outputs. -/
  credit : Int
  /-- The value of the owned outputs that pay change. -/
  change : Int
  deriving DecidableEq, Repr

namespace Totals

/-- The totals of a transaction. -/
def of (w : WalletView) (tx : Transaction) : Except LedgerError Totals := do
  let debit ← w.spent tx
  return {
    debit
    credit := sumOf ((w.ownedOutputs tx).map (·.value))
    change := sumOf ((w.changeOutputs tx).map (·.value)) }

/-- The change in the wallet's transparent value. -/
def net (t : Totals) : Int := t.credit - t.debit

/-- What the transparent side leaves behind as a fee. What crosses the border of the pool counts
like a payment or a receipt of the transparent side. -/
def observedFee (t : Totals) (tx : Transaction) : Int :=
  t.debit + tx.poolOut - tx.valueOut - tx.poolIn

end Totals

end ShieldedLedger
