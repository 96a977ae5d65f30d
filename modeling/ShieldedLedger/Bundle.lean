import ShieldedLedger.Classification
import ShieldedLedger.Snapshot
import ShieldedLedger.Status

/-!
# Bundles and their reports

A bundle holds everything that a ledger is computed from. Its report lists the records of all
transactions that are shown, newest first, each with its status.

## Main definitions

* `Bundle`, `Report`
* `Bundle.shown`, `Bundle.entriesOf`: the transactions that are shown, and the records of one
* `Bundle.reportLogged`, `Bundle.report`: the report with and without its log
-/

namespace ShieldedLedger

/-- Everything that a ledger is computed from. -/
structure Bundle where
  /-- The parameters under which it was saved. -/
  params? : Option Params
  /-- The chain. -/
  chain : ChainSnapshot
  /-- The wallet. -/
  wallet : WalletSnapshot
  /-- The network. -/
  relay : RelaySnapshot
  /-- The wallet's transactions. -/
  transactions : List Transaction
  deriving DecidableEq, Repr

/-- One record with its status. -/
structure ReportEntry where
  /-- The record. -/
  record : Record
  /-- Its status. -/
  status : Status
  deriving DecidableEq, Repr

/-- A notice with the transaction it is about. -/
structure TxNotice where
  /-- The transaction. -/
  tx : TxHash
  /-- The notice. -/
  notice : Notice
  deriving DecidableEq, Repr

/-- The ledger of a bundle. -/
structure Report where
  /-- The records with their status, newest first. -/
  entries : List ReportEntry
  /-- The notices, in the order of the transactions. -/
  notices : List TxNotice
  deriving DecidableEq, Repr

/-- Newer entries first; entries with equal keys keep their order. -/
def newestFirst (entries : List ReportEntry) : List ReportEntry :=
  entries.mergeSort fun a b => b.status.sortKey.ble a.status.sortKey

namespace Bundle

/-- The transactions that are shown. -/
def shown (b : Bundle) : List Transaction := b.transactions.filter b.chain.view.shows

/-- How many transactions are hidden. -/
def hiddenCount (b : Bundle) : Nat := b.transactions.countP fun tx => !b.chain.view.shows tx

/-- The records of a transaction with their status, and its notices. -/
def entriesOf (b : Bundle) (p : Params) (tx : Transaction) :
    Logged (List ReportEntry × List TxNotice) := do
  let c ← classifyLogged b.wallet.view p tx
  let entries ← c.records.mapM fun record => do
    let status ← Status.deriveLogged b.chain.view b.relay.view p tx record
    return { record, status : ReportEntry }
  return (entries, c.notices.map fun notice => { tx := tx.hash, notice })

/-- Computes the report and keeps the log. The first transaction that fails makes it fail. -/
def reportLogged (b : Bundle) (p : Params) : Logged Report := do
  let parts ← b.shown.mapM (b.entriesOf p)
  let entries := newestFirst (parts.flatMap (·.1))
  Logged.tell [.reportBuilt b.transactions.length entries.length b.hiddenCount]
  return { entries, notices := parts.flatMap (·.2) }

/-- Computes the report. -/
def report (b : Bundle) (p : Params) : Except LedgerError Report := (b.reportLogged p).result

end Bundle

end ShieldedLedger
