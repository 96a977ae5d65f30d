import ShieldedLedger.Bundle
import ShieldedLedger.Sample.Label

/-!
# Sample scenarios

Each scenario is one transaction with the wallet, chain and network in which it is looked at. All
start from the same wallet and the same tip, so they can also be merged into one bundle.

## Main definitions

* `Sample.wallet`: the wallet that all scenarios start from
* `Scenario`, `Scenario.bundle`, `Sample.scenarios`
* `Sample.mergedBundle`: all scenarios in one bundle
-/

namespace ShieldedLedger

namespace Sample

/-- The tip at which the scenarios are looked at. -/
def tipHeight : Int := 1000

/-- The network's time in all scenarios. -/
def now : Int := receivedAt.toNat + 30

/-- Owns `t1mine`, the change address `t1change` and, without a key, `t1watch`, and has seen three
outputs of the transaction `funding`. -/
def wallet : WalletSnapshot :=
  ((((((WalletSnapshot.empty.own "t1mine" .spendable).ownChange "t1change").own
    "t1watch" .watchOnly).addCoin
    (outpoint "funding" 0) ⟨1000300, .address "t1mine"⟩).addCoin
    (outpoint "funding" 1) ⟨150000, .address "t1mine"⟩).addCoin
    (outpoint "funding" 2) ⟨60000, .address "t1mine"⟩)

end Sample

/-- One transaction with everything it is looked at with. -/
structure Scenario where
  /-- What the scenario is called. -/
  name : String
  /-- The transaction. -/
  tx : Transaction
  /-- The wallet. -/
  wallet : WalletSnapshot := Sample.wallet
  /-- The chain. -/
  chain : ChainSnapshot := .atHeight Sample.tipHeight
  /-- The network. -/
  relay : RelaySnapshot := .atTime Sample.now

namespace Scenario

/-- Mines the transaction so deep. -/
def minedAtDepth (s : Scenario) (depth : Int) : Scenario :=
  { s with chain := s.chain.mine s.tx.hash (Sample.tipHeight - depth + 1) }

/-- Lets so many peers have asked for the transaction. -/
def requested (s : Scenario) (count : Int) : Scenario :=
  { s with relay := s.relay.setRequests s.tx.hash count }

/-- Gives the wallet a note that the transaction created. -/
def withNote (s : Scenario) (address : String) (amount depth : Int) : Scenario :=
  { s with wallet := s.wallet.addNote address ⟨s.tx.hash, amount, depth⟩ }

/-- The scenario as a bundle of one transaction. -/
def bundle (s : Scenario) (p : Params) : Bundle where
  params? := some p
  chain := s.chain
  wallet := s.wallet
  relay := s.relay
  transactions := [s.tx]

end Scenario

namespace Sample

/-- A stranger pays to the wallet. -/
def transparentReceive : Scenario :=
  let tx := ((labelled "transparent-receive").spend (outpoint "stranger" 0)).pay 500000 "t1mine"
  (Scenario.minedAtDepth { name := "transparent-receive", tx } 10).requested 3

/-- A coin moves to the change address and pays a fee. -/
def selfTransfer : Scenario :=
  let tx := ((labelled "self-transfer").spend (outpoint "funding" 0)).pay 1000000 "t1change"
  Scenario.minedAtDepth { name := "self-transfer", tx } 3

/-- A shielded payment arrives and is not mined yet. -/
def shieldedReceive : Scenario :=
  let tx := ((labelled "shielded-receive").moveShielded 0 0).decrypted 0 0
  (Scenario.withNote { name := "shielded-receive", tx } "zaddr1" 250000 0).requested 1

/-- Shielded funds pay a transparent address and come back as a note of change. -/
def shieldedSend : Scenario :=
  let tx := (((labelled "shielded-send").moveShielded 0 110000).pay 100000 "t1payee").decrypted 0 1
  (Scenario.withNote { name := "shielded-send", tx } "zaddr1" 5000 1).minedAtDepth 1

/-- A coin moves into a note of the wallet. -/
def shielding : Scenario :=
  let tx :=
    (((labelled "shielding").spend (outpoint "funding" 2)).moveShielded 60000 0).decrypted 0 0
  (Scenario.withNote { name := "shielding", tx } "zaddr1" 50000 6).minedAtDepth 6

/-- A mined block reward with a countdown to maturity. -/
def blockReward (name : String) (blocksLeft : Int) : Scenario :=
  let tx := (labelled name).coinbase.pay 625000000 "t1mine"
  let s := Scenario.minedAtDepth { name, tx } 10
  { s with chain := s.chain.setMaturity tx.hash (some blocksLeft) }

/-- An old payment that nobody asked for, displaced by a conflicting one. -/
def conflicted : Scenario :=
  let tx := ((((labelled "conflicted").spend (outpoint "funding" 1)).pay 100000 "t1alice").pay
    49000 "t1change").received (receivedAt - 3600)
  let s := Scenario.requested { name := "conflicted", tx } 0
  { s with chain := s.chain.conflict tx.hash 2 }

/-- All scenarios. -/
def scenarios : List Scenario :=
  [transparentReceive, selfTransfer, shieldedReceive, shieldedSend, shielding,
    blockReward "coinbase-mature" 0, blockReward "coinbase-immature" 40, conflicted]

/-- The histories of two wallets, one after the other at each address. -/
def mergeNotes (a b : SortedMap String (List StoredNote)) : SortedMap String (List StoredNote) :=
  b.entries.foldl (fun m e => m.insert e.1 ((m.get? e.1).getD [] ++ e.2)) a

/-- Adds a scenario to a bundle: what is known of its transaction, and its transaction. -/
def addScenario (b : Bundle) (s : Scenario) : Bundle where
  params? := b.params?
  chain := { b.chain with transactions := b.chain.transactions.union s.chain.transactions }
  wallet := { b.wallet with
    spendingKeys := b.wallet.spendingKeys.union s.wallet.spendingKeys
    notes := mergeNotes b.wallet.notes s.wallet.notes }
  relay := { b.relay with requests := b.relay.requests.union s.relay.requests }
  transactions := b.transactions ++ [s.tx]

/-- All scenarios in one bundle. -/
def mergedBundle (p : Params) : Bundle :=
  scenarios.foldl addScenario {
    params? := some p
    chain := .atHeight tipHeight
    wallet
    relay := .atTime now
    transactions := [] }

end Sample

end ShieldedLedger
