import ShieldedLedger.Decomposition

/-!
# Classification of a transaction

A transaction is classified in three steps: its amounts are checked, the wallet's part is summed
up, and one rule decomposes it into numbered records. A transaction without anything of the wallet
has no records, and a notice says so.

## Main definitions

* `Classification`: shape, records and notices
* `Resolution.find`: the search for the wallet's notes, where the shape asks for it
* `classifyLogged`, `classify`: the classification with and without its log
-/

namespace ShieldedLedger

/-- The records of a transaction and how they came about. -/
structure Classification where
  /-- The shape of the transaction. -/
  shape : Shape
  /-- Its records. -/
  records : List Record
  /-- What a reader should know about them. -/
  notices : List Notice
  deriving DecidableEq, Repr

/-- Refuses a transaction with an amount outside the money range. -/
def Transaction.checkAmounts (tx : Transaction) : Except LedgerError Unit :=
  match tx.badAmount? with
  | some value => .error (.amountOutOfRange tx.hash value)
  | none => .ok ()

/-- What the wallet's notes say about a transaction. They are searched only if the transaction uses
the pool. -/
def Resolution.find (w : WalletView) (tx : Transaction) : Resolution :=
  if Shape.of tx = .plain then .unmatched else .of (w.notesOf tx.hash) tx.hasNoteData

/-- What the search for notes tells. -/
def Resolution.events (w : WalletView) (tx : Transaction) : List LogEvent :=
  if Shape.of tx = .plain then [] else [.notesResolved tx.hash (w.notesOf tx.hash).length]

/-- Whether a transaction is of any concern to the wallet. -/
def WalletView.concerns (w : WalletView) (tx : Transaction) : Bool :=
  w.ownsAny tx || tx.hasNoteData || (Resolution.find w tx).isOwned

/-- Classifies a transaction and keeps the log. -/
def classifyLogged (w : WalletView) (p : Params) (tx : Transaction) : Logged Classification := do
  let shape := Shape.of tx
  let resolution := Resolution.find w tx
  Logged.ofExcept tx.checkAmounts
  let totals ← Logged.ofExcept (Totals.of w tx)
  Logged.tell (Resolution.events w tx)
  if w.concerns tx then
    let d := decompose w tx p totals resolution
    Logged.tell (.classifying tx.hash shape resolution.kind :: d.log)
    return { shape, records := Record.ofMovements tx d.movements, notices := d.notices }
  else
    Logged.tell [.notInvolved tx.hash shape]
    return { shape, records := [], notices := [.notRelevant] }

/-- Classifies a transaction. -/
def classify (w : WalletView) (p : Params) (tx : Transaction) : Except LedgerError Classification :=
  (classifyLogged w p tx).result

/-- The classification, given the totals. -/
def classification (w : WalletView) (p : Params) (tx : Transaction) (totals : Totals) :
    Classification :=
  if w.concerns tx then
    let d := decompose w tx p totals (.find w tx)
    { shape := .of tx, records := Record.ofMovements tx d.movements, notices := d.notices }
  else { shape := .of tx, records := [], notices := [.notRelevant] }

/-- A classification fails only in the checks that come before the rules. -/
theorem classify_eq (w : WalletView) (p : Params) (tx : Transaction) :
    classify w p tx = do
      tx.checkAmounts
      let totals ← Totals.of w tx
      return classification w p tx totals := by
  unfold classify classifyLogged classification
  simp only [Logged.result_bind, Logged.result_ofExcept, Logged.result_tell]
  split <;> rfl

end ShieldedLedger
