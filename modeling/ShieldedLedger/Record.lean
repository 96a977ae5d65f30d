import ShieldedLedger.Transaction

/-!
# Ledger records

A record is one line of the wallet's ledger. The rules that decompose a transaction decide what
value moved and to whom; the place of a record and the data it takes from its transaction are added
for all rules alike.

## Main definitions

* `RecordKind`: what kind of line it is
* `Movement`: what a rule decides
* `Record`, `Record.ofMovements`: movements numbered in order
-/

namespace ShieldedLedger

/-- The kinds of ledger lines. -/
inductive RecordKind where
  /-- Received at a transparent address. -/
  | receivedTransparent
  /-- Received through a script that is not standard. -/
  | receivedFromUnknown
  /-- Paid to a transparent address, or into the pool. -/
  | sentTransparent
  /-- Paid through a script that is not standard. -/
  | sentToUnknown
  /-- Moved within the wallet. -/
  | selfTransfer
  /-- Received as a shielded note. -/
  | shieldedReceive
  /-- Paid out of shielded notes. -/
  | shieldedSend
  /-- Moved from the transparent side into a note of the wallet. -/
  | shieldedPool
  /-- A block reward. -/
  | generated
  /-- Partly the wallet's, without a way to name the payees. -/
  | mixed
  deriving DecidableEq, Repr

namespace RecordKind

/-- The words shown for a kind. -/
def label : RecordKind → String
  | receivedTransparent => "received"
  | receivedFromUnknown => "received from"
  | sentTransparent => "sent"
  | sentToUnknown => "sent to"
  | selfTransfer => "payment to self"
  | shieldedReceive => "shielded receive"
  | shieldedSend => "shielded send"
  | shieldedPool => "shielding"
  | generated => "mined"
  | mixed => "mixed"

/-- Whether it is a block reward. -/
def isGenerated (k : RecordKind) : Bool := k = generated

end RecordKind

/-- The counterpart shown when the wallet paid to a shielded address that is not its own. -/
def unknownShieldedAddress : String := "shielded address not in wallet"

/-- What a rule decides about one record. -/
structure Movement where
  /-- What kind of line it is. -/
  kind : RecordKind
  /-- The counterpart, empty when there is none to show. -/
  address : String := ""
  /-- Value that leaves the wallet, as a negative amount. -/
  debit : Int
  /-- Value that enters the wallet. -/
  credit : Int
  /-- The network fee attributed to the record. -/
  fee : Int := 0
  /-- Whether outputs that the wallet merely watches take part. -/
  watchOnly : Bool := false
  deriving DecidableEq, Repr

/-- One line of the ledger, identified by its transaction and its place. -/
structure Record where
  /-- The transaction. -/
  hash : TxHash
  /-- The place among the transaction's records. It is kept in 32 bits, so it is this one only while
  a transaction has no more than 2 ^ 32 records. -/
  index : Nat
  /-- When the wallet received the transaction. -/
  time : UInt32
  /-- What kind of line it is. -/
  kind : RecordKind
  /-- The counterpart, empty when there is none to show. -/
  address : String
  /-- Value that leaves the wallet, as a negative amount. -/
  debit : Int
  /-- Value that enters the wallet. -/
  credit : Int
  /-- The network fee attributed to the record. -/
  fee : Int
  /-- Whether outputs that the wallet merely watches take part. -/
  watchOnly : Bool
  deriving DecidableEq, Repr

namespace Record

/-- The record of a movement at a place. -/
def ofMovement (tx : Transaction) (index : Nat) (m : Movement) : Record where
  hash := tx.hash
  index
  time := tx.timeReceived
  kind := m.kind
  address := m.address
  debit := m.debit
  credit := m.credit
  fee := m.fee
  watchOnly := m.watchOnly

/-- A record of a kind at which nothing has moved yet. -/
def fresh (tx : Transaction) (index : Nat) (kind : RecordKind) : Record :=
  ofMovement tx index { kind, debit := 0, credit := 0 }

/-- The records of a transaction's movements, numbered in order. -/
def ofMovements (tx : Transaction) (ms : List Movement) : List Record :=
  ms.mapIdx fun i m => ofMovement tx i m

/-- The change in the wallet's value that the record stands for. What a note brings may be any
amount, so the sum is put into a word. -/
def net (r : Record) : Int := wrap (r.credit + r.debit)

@[simp] theorem length_ofMovements (tx : Transaction) (ms : List Movement) :
    (ofMovements tx ms).length = ms.length := by simp [ofMovements]

/-- The records of some movements, each at the place of its movement. -/
theorem mem_ofMovements_iff {tx : Transaction} {ms : List Movement} {r : Record} :
    r ∈ ofMovements tx ms ↔ ∃ i m, ms[i]? = some m ∧ r = ofMovement tx i m := by
  rw [ofMovements, List.mem_mapIdx]
  constructor
  · rintro ⟨i, hi, rfl⟩
    exact ⟨i, ms[i], List.getElem?_eq_getElem hi, rfl⟩
  · rintro ⟨i, m, hm, rfl⟩
    obtain ⟨hi, rfl⟩ := List.getElem?_eq_some_iff.mp hm
    exact ⟨i, hi, rfl⟩

end Record

end ShieldedLedger
