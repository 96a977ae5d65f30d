import ShieldedLedger.Blake3
import ShieldedLedger.Transaction

/-!
# Sample transactions

Sample transactions are identified by labels: the hash of a label stands for the transaction of that
name. A transaction is built by adding one part after the other to a blank one.

## Main definitions

* `Sample.txid`, `Sample.outpoint`: what a label stands for
* `Sample.labelled`: the blank transaction of a label
* `Transaction.spend`, `Transaction.pay`, `Transaction.moveShielded` and the other steps
-/

namespace ShieldedLedger

namespace Sample

/-- When the sample transactions were received. -/
def receivedAt : UInt32 := 1700000000

/-- The transaction of a label. -/
def txid (label : String) : TxHash := Blake3.hash label.toUTF8.data.toList

/-- An output of the transaction of a label. -/
def outpoint (label : String) (index : UInt32) : OutPoint := ⟨txid label, index⟩

/-- The blank transaction of a label. -/
def labelled (label : String) : Transaction := .blank (txid label) receivedAt

end Sample

namespace Transaction

/-- Adds an input. -/
def spend (tx : Transaction) (prevout : OutPoint) : Transaction :=
  { tx with inputs := tx.inputs ++ [⟨prevout⟩] }

/-- Adds an output to an address. -/
def pay (tx : Transaction) (value : Int) (address : String) : Transaction :=
  { tx with outputs := tx.outputs ++ [⟨value, .address address⟩] }

/-- Adds an output with a script that is not standard. -/
def payScript (tx : Transaction) (value : Int) (script : List UInt8) : Transaction :=
  { tx with outputs := tx.outputs ++ [⟨value, .raw script⟩] }

/-- Adds a transfer across the border of the pool, with two encrypted notes. -/
def moveShielded (tx : Transaction) (entering leaving : Int) : Transaction :=
  let ciphertext := List.replicate 52 0
  { tx with shielded := tx.shielded ++ [⟨entering, leaving, [ciphertext, ciphertext]⟩] }

/-- Marks a shielded output as decrypted. -/
def decrypted (tx : Transaction) (transfer : UInt32) (output : UInt8) : Transaction :=
  { tx with noteData := tx.noteData ++ [⟨transfer, output⟩] }

/-- Makes it a block reward. -/
def coinbase (tx : Transaction) : Transaction := { tx with isCoinbase := true }

/-- Sets its lock time. -/
def lockedUntil (tx : Transaction) (lockTime : UInt32) : Transaction := { tx with lockTime }

/-- Sets when it was received. -/
def received (tx : Transaction) (time : UInt32) : Transaction := { tx with timeReceived := time }

/-- Adds an annotation. -/
def annotate (tx : Transaction) (key value : String) : Transaction :=
  { tx with metadata := tx.metadata.insert key value }

end Transaction

end ShieldedLedger
