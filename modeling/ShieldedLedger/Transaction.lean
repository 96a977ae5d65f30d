import ShieldedLedger.Amount
import ShieldedLedger.SortedMap
import ShieldedLedger.TxHash

/-!
# Transactions

A transaction as a node hands it to the wallet. The transparent side spends outputs of earlier
transactions and creates new ones; the shielded side moves value into or out of a pool of notes
whose amounts are hidden. The wallet adds the positions of the notes that it could decrypt and
free annotations.

## Main definitions

* `OutPoint`, `TxInput`, `Script`, `TxOutput`: the transparent side
* `PoolTransfer`, `NotePosition`: the shielded side
* `Transaction`, with its totals `valueOut`, `poolIn`, `poolOut`
* `Transaction.badAmount?`: the first amount that leaves the money range
-/

namespace ShieldedLedger

/-! ### The transparent side -/

/-- An output of an earlier transaction, by its place. -/
structure OutPoint where
  /-- The transaction that created the output. -/
  txid : TxHash
  /-- The place of the output among that transaction's outputs. -/
  index : UInt32
  deriving DecidableEq, Repr

/-- An input, which spends an earlier output. -/
structure TxInput where
  /-- The output that is spent. -/
  prevout : OutPoint
  deriving DecidableEq, Repr

/-- What an output demands of its spender. -/
inductive Script where
  /-- A standard script, known by the address it pays to. -/
  | address (destination : String)
  /-- Any other script, by its bytes. -/
  | raw (bytes : List UInt8)
  deriving DecidableEq, Repr

/-- A transparent output. -/
structure TxOutput where
  /-- The amount it holds. -/
  value : Int
  /-- The script that guards it. -/
  script : Script
  deriving DecidableEq, Repr

/-- The address that an output pays to, if its script is standard. -/
def TxOutput.destination? (out : TxOutput) : Option String :=
  match out.script with
  | .address destination => some destination
  | .raw _ => none

/-! ### The shielded side -/

/-- One transfer across the border of the shielded pool. Only the two amounts that cross it are
public. -/
structure PoolTransfer where
  /-- Value that enters the pool from the transparent side. -/
  entering : Int
  /-- Value that leaves the pool for the transparent side. -/
  leaving : Int
  /-- The encrypted notes. -/
  ciphertexts : List (List UInt8)
  deriving DecidableEq, Repr

/-- The position of a shielded output that the wallet could decrypt. -/
structure NotePosition where
  /-- The place of the transfer. -/
  transfer : UInt32
  /-- The place of the output within the transfer. -/
  output : UInt8
  deriving DecidableEq, Repr

/-- A shielded note that the wallet received. -/
structure Note where
  /-- The transaction that created the note. -/
  txid : TxHash
  /-- Its amount. Unlike the values of a transaction, it is not checked against the money range. -/
  amount : Int
  /-- The shielded address that holds it. -/
  address : String
  deriving DecidableEq, Repr

/-! ### The whole -/

/-- A transaction with the wallet's own additions. -/
structure Transaction where
  /-- The hash that identifies it. -/
  hash : TxHash
  /-- The outputs it spends. -/
  inputs : List TxInput
  /-- The outputs it creates. -/
  outputs : List TxOutput
  /-- Its transfers across the border of the pool. -/
  shielded : List PoolTransfer
  /-- The shielded outputs that the wallet decrypted. -/
  noteData : List NotePosition
  /-- Whether it pays out a block reward. -/
  isCoinbase : Bool
  /-- The height or time before which it is not final; zero means none. -/
  lockTime : UInt32
  /-- When the wallet received it, in seconds of Unix time. -/
  timeReceived : UInt32
  /-- The wallet's annotations, such as `from` and `to`. -/
  metadata : SortedMap String String
  deriving DecidableEq, Repr

namespace Transaction

/-- A transaction without any content. -/
def blank (hash : TxHash) (timeReceived : UInt32) : Transaction where
  hash
  inputs := []
  outputs := []
  shielded := []
  noteData := []
  isCoinbase := false
  lockTime := 0
  timeReceived
  metadata := ∅

/-- Whether it moves value across the border of the pool. -/
def hasShielded (tx : Transaction) : Bool := !tx.shielded.isEmpty

/-- Whether the wallet decrypted any of its shielded outputs. -/
def hasNoteData (tx : Transaction) : Bool := !tx.noteData.isEmpty

/-- The total of the outputs. -/
def valueOut (tx : Transaction) : Int := sumOf (tx.outputs.map (·.value))

/-- The total that enters the pool. -/
def poolIn (tx : Transaction) : Int := sumOf (tx.shielded.map (·.entering))

/-- The total that leaves the pool. -/
def poolOut (tx : Transaction) : Int := sumOf (tx.shielded.map (·.leaving))

/-- An annotation, or the empty text. -/
def annotation (tx : Transaction) (key : String) : String := (tx.metadata.get? key).getD ""

/-- The first of some values that is outside the money range or takes their total outside it. -/
def firstBad? (total : Int) : List Int → Option Int
  | [] => none
  | value :: rest =>
    match addMoney total value with
    | some sum => firstBad? sum rest
    | none => some value

/-- The first amount that is outside the money range or takes a total outside it: of the outputs,
else of what enters the pool, else of what leaves it. Where there is none the three totals are
exact. -/
def badAmount? (tx : Transaction) : Option Int :=
  firstBad? 0 (tx.outputs.map (·.value))
    <|> firstBad? 0 (tx.shielded.map (·.entering))
    <|> firstBad? 0 (tx.shielded.map (·.leaving))

end Transaction

end ShieldedLedger
