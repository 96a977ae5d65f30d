import ShieldedLedger.Log
import ShieldedLedger.Record
import ShieldedLedger.View

/-!
# Status of a record

A status is never stored: it is derived anew from the chain and the network whenever it is asked
for, and it is outdated as soon as the tip has moved.

## Main definitions

* `isStale`, `stateOf`: the stage of a record
* `Status.derive`: the whole status, or the contradiction that prevents it
* `Status.isOutdated`: whether the tip has moved since
-/

namespace ShieldedLedger

/-- No peer has asked for the transaction, although the wallet has known it for long. -/
def isStale (relay : RelayView) (p : Params) (tx : Transaction) : Bool :=
  decide (p.staleWindow < relay.secondsSinceReceipt tx) && relay.requestCount tx == 0

/-- The stage of a record: first whether it is final, then, for a block reward, how long it must
wait, else how deep it is. -/
def stateOf (chain : ChainView) (relay : RelayView) (p : Params) (tx : Transaction)
    (kind : RecordKind) : TxState :=
  if !chain.isFinal tx p.lockTimeThreshold then
    if p.isHeightLock tx.lockTime then .openUntilBlock else .openUntilDate
  else if kind = .generated then
    if chain.blocksToMaturity tx p.coinbaseMaturity = 0 then .confirmed
    else if !chain.inBestChain tx then .notAccepted
    else if isStale relay p tx then .maturesWarning else .immature
  else if chain.depth tx < 0 then .conflicted
  else if chain.depth tx = 0 then
    if isStale relay p tx then .offline else .unconfirmed
  else if chain.depth tx < p.recommendedConfirmations then .confirming
  else .confirmed

/-- What is left to wait for in a state that is open: the blocks until the height, or the time. -/
def openFor (chain : ChainView) (tx : Transaction) : TxState → Int
  | .openUntilBlock => tx.lockTime.toNat - chain.height
  | .openUntilDate => tx.lockTime.toNat
  | _ => 0

/-- How many blocks a block reward must wait in a state that is immature. -/
def maturesIn (chain : ChainView) (p : Params) (tx : Transaction) : TxState → Int
  | .immature | .maturesWarning => chain.blocksToMaturity tx p.coinbaseMaturity
  | _ => 0

/-- The chain counts blocks on top of a transaction, or calls it part of the best chain, but names
no block that contains it. -/
def ChainView.contradicts (chain : ChainView) (tx : Transaction) : Bool :=
  (chain.blockHeight? tx).isNone && (chain.inBestChain tx || decide (0 < chain.depth tx))

/-- The key of a record. -/
def SortKey.of (chain : ChainView) (tx : Transaction) (index : Nat) : SortKey where
  height := (chain.blockHeight? tx).getD unminedHeight
  coinbase := tx.isCoinbase
  timeReceived := tx.timeReceived
  index

namespace Status

/-- The status of a record of a transaction. -/
def derive (chain : ChainView) (relay : RelayView) (p : Params) (tx : Transaction) (r : Record) :
    Except LedgerError Status :=
  if chain.contradicts tx then .error (.missingBlockIndex tx.hash)
  else
    let state := stateOf chain relay p tx r.kind
    .ok {
      state
      sortKey := .of chain tx r.index
      depth := chain.depth tx
      maturesIn := ShieldedLedger.maturesIn chain p tx state
      openFor := ShieldedLedger.openFor chain tx state
      countsForBalance :=
        chain.isTrusted tx p.lockTimeThreshold && chain.blocksToMaturity tx p.coinbaseMaturity == 0
      tip := chain.height }

/-- Derives a status and keeps the log. -/
def deriveLogged (chain : ChainView) (relay : RelayView) (p : Params) (tx : Transaction)
    (r : Record) : Logged Status := do
  let s ← Logged.ofExcept (derive chain relay p tx r)
  Logged.tell [.statusDerived tx.hash r.index s.state s.depth s.tip]
  return s

@[simp] theorem result_deriveLogged (chain : ChainView) (relay : RelayView) (p : Params)
    (tx : Transaction) (r : Record) :
    (deriveLogged chain relay p tx r).result = derive chain relay p tx r := by
  simp only [deriveLogged, Logged.result_bind, Logged.result_ofExcept, Logged.result_tell]
  cases derive chain relay p tx r <;> rfl

/-- Whether the tip has moved since the status was derived. -/
def isOutdated (s : Status) (chain : ChainView) : Bool := s.tip ≠ chain.height

end Status

end ShieldedLedger
