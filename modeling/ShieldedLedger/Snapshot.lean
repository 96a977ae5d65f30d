import ShieldedLedger.Text.Hex
import ShieldedLedger.View

/-!
# Snapshots

A snapshot is one frozen state of the chain, the wallet or the network. It can be built step by
step and answers the questions of the corresponding view.

## Main definitions

* `ChainSnapshot`: `mine`, `orphan`, `conflict`, `setMaturity`, `forget`; `ChainSnapshot.view`
* `WalletSnapshot`: `own`, `ownChange`, `ownScript`, `addCoin`, `addNote`, `addViewingNote`;
  `WalletSnapshot.view`
* `RelaySnapshot`: `setRequests`; `RelaySnapshot.view`
-/

namespace ShieldedLedger

/-! ### The chain -/

/-- Where one transaction stands in the chain. -/
structure ChainEntry where
  /-- The height of the block that contains it. -/
  blockHeight? : Option Int
  /-- Whether that block is in the best chain. -/
  inBestChain : Bool
  /-- How deep the transaction is that was mined instead. -/
  conflictDepth? : Option Int
  /-- A countdown to maturity that is used instead of the one derived from the depth. -/
  blocksToMaturity? : Option Int
  deriving DecidableEq, Repr

/-- An entry of which nothing is known. -/
def ChainEntry.unknown : ChainEntry := ⟨none, false, none, none⟩

/-- A frozen chain. -/
structure ChainSnapshot where
  /-- The height of the tip. -/
  height : Int
  /-- The median time of the last blocks, which lock times are compared with. -/
  medianTimePast : UInt32
  /-- The transactions about which something is known. -/
  transactions : SortedMap TxHash ChainEntry
  deriving DecidableEq, Repr

namespace ChainSnapshot

/-- A chain of some height that knows no transaction. -/
def atHeight (height : Int) : ChainSnapshot := ⟨height, 0, ∅⟩

/-- What is known of a transaction. -/
def entry? (c : ChainSnapshot) (txid : TxHash) : Option ChainEntry := c.transactions.get? txid

/-- Changes the entry of a transaction, starting from an unknown one. -/
def modify (c : ChainSnapshot) (txid : TxHash) (f : ChainEntry → ChainEntry) : ChainSnapshot :=
  { c with transactions := c.transactions.insert txid (f ((c.entry? txid).getD .unknown)) }

/-- The transaction was mined in a block of the best chain. A countdown stays as it was. -/
def mine (c : ChainSnapshot) (txid : TxHash) (blockHeight : Int) : ChainSnapshot :=
  c.modify txid fun e =>
    { e with blockHeight? := some blockHeight, inBestChain := true, conflictDepth? := none }

/-- The transaction was mined in a block that is not in the best chain. -/
def orphan (c : ChainSnapshot) (txid : TxHash) (blockHeight : Int) : ChainSnapshot :=
  (c.mine txid blockHeight).modify txid ({ · with inBestChain := false })

/-- A conflicting transaction was mined instead and is so many blocks deep. -/
def conflict (c : ChainSnapshot) (txid : TxHash) (depth : Int) : ChainSnapshot :=
  c.modify txid fun e =>
    { e with blockHeight? := none, inBestChain := false, conflictDepth? := some depth }

/-- Sets or removes the countdown of a transaction. -/
def setMaturity (c : ChainSnapshot) (txid : TxHash) (blocks? : Option Int) : ChainSnapshot :=
  c.modify txid ({ · with blocksToMaturity? := blocks? })

/-- Forgets a transaction. -/
def forget (c : ChainSnapshot) (txid : TxHash) : ChainSnapshot :=
  { c with transactions := c.transactions.erase txid }

/-- A lock time is passed once the tip's next height, or its median time, is above it. -/
def isFinal (c : ChainSnapshot) (tx : Transaction) (threshold : UInt32) : Bool :=
  tx.lockTime == 0 ||
    decide ((tx.lockTime.toNat : Int) <
      if tx.lockTime < threshold then c.height + 1 else c.medianTimePast.toNat)

/-- How deep an entry is under a tip. A conflict comes before a block. -/
def depthOf (tip : Int) (e : ChainEntry) : Int :=
  match e.conflictDepth?, e.blockHeight?, e.inBestChain with
  | some depth, _, _ => -depth
  | none, some blockHeight, true => tip - blockHeight + 1
  | none, _, _ => 0

/-- Whether an entry is mined in the best chain, and nothing was mined instead of it. -/
def isBest (e : ChainEntry) : Bool :=
  e.inBestChain && e.blockHeight?.isSome && e.conflictDepth?.isNone

/-- How deep a transaction is; an unknown one is not mined. -/
def depth (c : ChainSnapshot) (tx : Transaction) : Int :=
  ((c.entry? tx.hash).map (depthOf c.height)).getD 0

/-- How many blocks a block reward must still wait: the countdown of its entry, if there is one,
else what follows from its depth. -/
def blocksToMaturity (c : ChainSnapshot) (tx : Transaction) (maturity : Int) : Int :=
  if !tx.isCoinbase then 0
  else match (c.entry? tx.hash).bind (·.blocksToMaturity?) with
    | some blocks => max blocks 0
    | none => countdown maturity (c.depth tx)

/-- The answers of the chain. -/
def view (c : ChainSnapshot) : ChainView where
  height := c.height
  isFinal := c.isFinal
  blockHeight? := fun tx => (c.entry? tx.hash).bind (·.blockHeight?)
  depth := c.depth
  inBestChain := fun tx => ((c.entry? tx.hash).map isBest).getD false
  blocksToMaturity := c.blocksToMaturity

end ChainSnapshot

/-! ### The wallet -/

/-- An output that the wallet has seen. -/
structure Coin where
  /-- Its place. -/
  outpoint : OutPoint
  /-- The output. -/
  output : TxOutput
  deriving DecidableEq, Repr

/-- A note in the history of an address. -/
structure StoredNote where
  /-- The transaction that created it. -/
  txid : TxHash
  /-- Its amount. -/
  amount : Int
  /-- How deep that transaction is. -/
  depth : Int
  deriving DecidableEq, Repr

/-- A frozen wallet. -/
structure WalletSnapshot where
  /-- How much the wallet controls of each transparent address. -/
  addresses : SortedMap String Ownership
  /-- How much it controls of each script that is not standard, by its hexadecimal text. -/
  rawScripts : SortedMap String Ownership
  /-- The addresses used for change. -/
  changeAddresses : SortedSet String
  /-- The outputs it has seen. -/
  coins : List Coin
  /-- The shielded addresses whose notes it can spend. -/
  spendingKeys : SortedSet String
  /-- The history of each shielded address. -/
  notes : SortedMap String (List StoredNote)
  deriving DecidableEq, Repr

namespace WalletSnapshot

/-- The wallet that owns nothing. -/
def empty : WalletSnapshot := ⟨∅, ∅, ∅, [], ∅, ∅⟩

/-- Sets how much the wallet controls of an address. -/
def own (w : WalletSnapshot) (address : String) (ownership : Ownership) : WalletSnapshot :=
  { w with addresses := w.addresses.insert address ownership }

/-- Adds an address for change, which the wallet can spend from. -/
def ownChange (w : WalletSnapshot) (address : String) : WalletSnapshot :=
  { w.own address .spendable with changeAddresses := SortedSet.add w.changeAddresses address }

/-- Sets how much the wallet controls of a script. -/
def ownScript (w : WalletSnapshot) (script : List UInt8) (ownership : Ownership) :
    WalletSnapshot :=
  { w with rawScripts := w.rawScripts.insert (Hex.encode script) ownership }

/-- Adds an output that the wallet has seen. -/
def addCoin (w : WalletSnapshot) (outpoint : OutPoint) (output : TxOutput) : WalletSnapshot :=
  { w with coins := w.coins ++ [⟨outpoint, output⟩] }

/-- Adds a note to the history of an address that the wallet can only view. -/
def addViewingNote (w : WalletSnapshot) (address : String) (note : StoredNote) :
    WalletSnapshot :=
  { w with notes := w.notes.insert address ((w.notes.get? address).getD [] ++ [note]) }

/-- Adds a note to the history of an address that the wallet can spend from. -/
def addNote (w : WalletSnapshot) (address : String) (note : StoredNote) : WalletSnapshot :=
  { w.addViewingNote address note with spendingKeys := SortedSet.add w.spendingKeys address }

/-- The output at a place, if the wallet has seen it; the first one counts. -/
def output? (w : WalletSnapshot) (place : OutPoint) : Option TxOutput :=
  (w.coins.find? (·.outpoint = place)).map (·.output)

/-- How much the wallet controls of a script. -/
def scriptOwnership (w : WalletSnapshot) : Script → Ownership
  | .address destination => (w.addresses.get? destination).getD .foreign
  | .raw bytes => (w.rawScripts.get? (Hex.encode bytes)).getD .foreign

/-- The notes received at an address whose depth lies between two bounds. -/
def receivedNotes (w : WalletSnapshot) (address : String) (minDepth maxDepth : Int) : List Note :=
  (((w.notes.get? address).getD []).filter fun note =>
    minDepth ≤ note.depth && note.depth ≤ maxDepth).map fun note =>
      { txid := note.txid, amount := note.amount, address }

/-- The answers of the wallet. An input is owned as much as the output it spends. -/
def view (w : WalletSnapshot) : WalletView where
  inputOwnership := fun input =>
    ((w.output? input.prevout).map fun out => w.scriptOwnership out.script).getD .foreign
  outputOwnership := fun out => w.scriptOwnership out.script
  isChange := fun out => (out.destination?.map w.changeAddresses.contains).getD false
  previousOutput := w.output?
  spendingAddresses := w.spendingKeys.keys
  receivedNotes := w.receivedNotes

end WalletSnapshot

/-! ### The network -/

/-- A frozen state of the network layer. -/
structure RelaySnapshot where
  /-- The network's time, in seconds of Unix time. -/
  now : Int
  /-- How many peers asked for each transaction. -/
  requests : SortedMap TxHash Int
  deriving DecidableEq, Repr

namespace RelaySnapshot

/-- The network at some time, without any requests known. -/
def atTime (now : Int) : RelaySnapshot := ⟨now, ∅⟩

/-- Sets how many peers asked for a transaction. -/
def setRequests (b : RelaySnapshot) (txid : TxHash) (count : Int) : RelaySnapshot :=
  { b with requests := b.requests.insert txid count }

/-- The answers of the network layer; an unknown transaction has a count of minus one. -/
def view (b : RelaySnapshot) : RelayView where
  requestCount := fun tx => (b.requests.get? tx.hash).getD (-1)
  secondsSinceReceipt := fun tx => b.now - tx.timeReceived.toNat

end RelaySnapshot

end ShieldedLedger
