import ShieldedLedger.Log
import ShieldedLedger.Notes
import ShieldedLedger.Record
import ShieldedLedger.Totals

/-!
# Rules that decompose a transaction

Each rule turns one kind of transaction into movements of value. Rules for the pool apply when the
shape and the wallet's notes agree on one reading; everything else is decomposed by its transparent
side alone. What a rule could not express is told by notices.

## Main definitions

* `Resolution`: what the notes say about the wallet's part
* `Decomposition`: movements with notices and log
* `noteReceipt`, `shieldedSend`, `poolDeposit`, `poolWithdrawal`: the rules for the pool
* `transparent`: the rule for the transparent side
* `decompose`: the choice among them
-/

namespace ShieldedLedger

/-- What a reader of the records should know about them. -/
inductive Notice where
  /-- The payees could not be told apart; only the net is recorded. -/
  | degradedToMixed (net : Int)
  /-- More than one of the wallet's notes came from the transaction. -/
  | severalNotes (count : Nat)
  /-- Nothing in the transaction is the wallet's. -/
  | notRelevant
  deriving DecidableEq, Repr

/-- What the wallet's notes say about its part in a transaction. -/
inductive Resolution where
  /-- It decrypted outputs and owns these notes of the transaction. -/
  | owned (notes : List Note)
  /-- It decrypted nothing and owns no notes, so it can only be on the transparent side. -/
  | counterpart
  /-- What it decrypted and what it owns do not agree. -/
  | unmatched
  deriving DecidableEq, Repr

namespace Resolution

/-- The resolution of the notes found, given whether any output was decrypted. -/
def of (notes : List Note) (hasNoteData : Bool) : Resolution :=
  match notes, hasNoteData with
  | [], false => counterpart
  | [], true => unmatched
  | _ :: _, true => owned notes
  | _ :: _, false => unmatched

/-- What the log says of a resolution. -/
def kind : Resolution → ResolutionKind
  | owned _ => .owned
  | counterpart => .counterpart
  | unmatched => .unmatched

/-- Whether notes of the transaction are the wallet's. -/
def isOwned : Resolution → Bool
  | owned _ => true
  | _ => false

end Resolution

/-- The outcome of a rule. -/
structure Decomposition where
  /-- The movements, in the order of the records. -/
  movements : List Movement
  /-- What a reader should know about them. -/
  notices : List Notice := []
  /-- What was told on the way. -/
  log : List LogEvent := []

/-! ### Rules for the pool -/

/-- More than one note is worth a notice. -/
def noteNotices (count : Nat) : List Notice :=
  if 1 < count then [.severalNotes count] else []

/-- More than one note is worth telling. -/
def noteEvents (tx : TxHash) (count : Nat) : List LogEvent :=
  if 1 < count then [.severalNotes tx count] else []

/-- One movement for each note. The first one carries the debit and is lessened by the change. The
amount of a note may be any that fits into a word, so the difference is put into a word again. -/
def receiptMovements (kind : RecordKind) (notes : List Note) (debit change : Int) :
    List Movement :=
  (notes.map fun note =>
    { kind, address := note.address, debit := 0, credit := note.amount : Movement }).modifyHead
    fun m => { m with debit, credit := wrap (m.credit - change) }

/-- Value arrived in notes of the wallet. -/
def noteReceipt (tx : Transaction) (kind : RecordKind) (notes : List Note) (debit change : Int) :
    Decomposition where
  movements := receiptMovements kind notes debit change
  notices := noteNotices notes.length
  log := noteEvents tx.hash notes.length

/-- The last address among some outputs, or the empty text. -/
def lastDestination (outputs : List TxOutput) : String :=
  (outputs.reverse.findSome? TxOutput.destination?).getD ""

/-- Value left the wallet's notes for transparent outputs. What leaves the pool beyond the outputs
lessens the fee. -/
def shieldedSend (tx : Transaction) (p : Params) (notes : List Note) : Decomposition where
  movements := [{
    kind := .shieldedSend
    address := lastDestination tx.outputs
    debit := -tx.valueOut
    credit := 0
    fee := p.operationFee - (tx.poolOut - tx.valueOut) }]
  notices := noteNotices notes.length
  log := noteEvents tx.hash notes.length

/-- The wallet paid from its transparent side to a shielded address that is not its own. -/
def poolDeposit (tx : Transaction) (t : Totals) (p : Params) : Decomposition where
  movements := [{
    kind := .sentTransparent
    address := unknownShieldedAddress
    debit := -tx.poolIn
    credit := t.change
    fee := p.operationFee - t.change }]

/-- The wallet received out of somebody's notes on its transparent side. -/
def poolWithdrawal (w : WalletView) (tx : Transaction) (t : Totals) : Decomposition where
  movements := [{
    kind := .receivedTransparent
    address := lastDestination (w.ownedOutputs tx)
    debit := 0
    credit := t.credit
    watchOnly := w.watchesAny tx }]

/-! ### The transparent side -/

/-- What one owned output brings. -/
def creditMovement (w : WalletView) (tx : Transaction) (out : TxOutput) : Movement where
  kind :=
    if tx.isCoinbase then .generated
    else if out.destination?.isSome then .receivedTransparent
    else .receivedFromUnknown
  address :=
    match out.destination? with
    | some destination => destination
    | none => if tx.isCoinbase then "" else tx.annotation "from"
  debit := 0
  credit := out.value
  watchOnly := (w.outputOwnership out).isWatchOnly

/-- What all owned outputs bring. Owned inputs are charged to the first, so that the movements add
up to the change in the wallet's value. -/
def creditMovements (w : WalletView) (tx : Transaction) (t : Totals) : List Movement :=
  ((w.ownedOutputs tx).map (creditMovement w tx)).modifyHead ({ · with debit := -t.debit })

/-- Value moved within the wallet. -/
def selfMovement (w : WalletView) (tx : Transaction) (t : Totals) : Movement where
  kind := .selfTransfer
  debit := -(t.debit - t.change)
  credit := t.credit - t.change
  fee := t.observedFee tx
  watchOnly := w.watchesAny tx

/-- What one foreign output takes. -/
def debitMovement (w : WalletView) (tx : Transaction) (out : TxOutput) : Movement where
  kind := if out.destination?.isSome then .sentTransparent else .sentToUnknown
  address := out.destination?.getD (tx.annotation "to")
  debit := -out.value
  credit := 0
  watchOnly := w.watchesAny tx

/-- A movement that also bears the fee, if there is one. -/
def Movement.charged (fee : Int) (m : Movement) : Movement :=
  if 0 < fee then { m with debit := m.debit - fee, fee } else m

/-- What the pool takes, to an address that cannot be named. -/
def depositMovements (w : WalletView) (tx : Transaction) : List Movement :=
  let deposited := tx.poolIn - tx.poolOut
  if 0 < deposited then
    [{ kind := .sentTransparent, address := unknownShieldedAddress, debit := -deposited,
       credit := 0, watchOnly := w.watchesAny tx }]
  else []

/-- What all foreign outputs and the pool take. The rule is used only where some output is foreign,
so the fee always finds an output to be charged to. -/
def debitMovements (w : WalletView) (tx : Transaction) (t : Totals) : List Movement :=
  ((w.foreignOutputs tx).map (debitMovement w tx)).modifyHead (.charged (t.observedFee tx))
    ++ depositMovements w tx

/-- The net of a transaction whose payees cannot be told apart. -/
def mixedMovement (w : WalletView) (tx : Transaction) (t : Totals) : Movement where
  kind := .mixed
  debit := t.net
  credit := 0
  watchOnly := w.watchesAny tx

/-- The decomposition of the transparent side: a receipt if the wallet gained or was paid a block
reward, a transfer to itself or a payment if all inputs are its own, else the net alone. -/
def transparent (w : WalletView) (tx : Transaction) (t : Totals) : Decomposition :=
  if 0 < t.net ∨ tx.isCoinbase then { movements := creditMovements w tx t }
  else if w.ownsAllInputs tx then
    if w.ownsAllOutputs tx then { movements := [selfMovement w tx t] }
    else { movements := debitMovements w tx t }
  else
    { movements := [mixedMovement w tx t]
      notices := [.degradedToMixed t.net]
      log := [.netOnly tx.hash t.net] }

/-! ### The choice -/

/-- The transparent decomposition of a transaction that uses the pool. -/
def unruled (w : WalletView) (tx : Transaction) (t : Totals) : Decomposition :=
  let d := transparent w tx t
  { d with log := .noPoolRule tx.hash (.of tx) :: d.log }

/-- Exactly one rule decomposes each transaction. -/
def decompose (w : WalletView) (tx : Transaction) (p : Params) (t : Totals) (r : Resolution) :
    Decomposition :=
  match Shape.of tx, r with
  | .plain, _ => transparent w tx t
  | .shieldedBoth, .owned notes =>
    noteReceipt tx .receivedTransparent notes (-(t.debit - t.change)) t.change
  | .shieldedIn, .owned notes => noteReceipt tx .shieldedPool notes (-t.debit) 0
  | .shieldedNone, .owned notes => noteReceipt tx .shieldedReceive notes 0 t.change
  | .shieldedOut, .owned notes => shieldedSend tx p notes
  | .shieldedBoth, .counterpart =>
    if w.ownsAllInputs tx then poolDeposit tx t p else unruled w tx t
  | .shieldedOut, .counterpart => poolWithdrawal w tx t
  | .shieldedIn, .counterpart | .shieldedNone, .counterpart => unruled w tx t
  | _, .unmatched => unruled w tx t

end ShieldedLedger
