import ShieldedLedger.Saved.Transaction
import ShieldedLedger.Snapshot

/-!
# The saved form of snapshots and parameters

How parameters and the snapshots of chain, wallet and network are written as JSON and read back.
Fields of parameters that are not given take the values of the main network.

## Main definitions

* `toJson` and `ofJson` of `Params`, `ChainSnapshot`, `WalletSnapshot`, `RelaySnapshot` and the rest
-/

namespace ShieldedLedger

open Json

/-- A value that may be absent, as `null` if it is. -/
def optionToJson {α : Type} (toJson : α → Json) : Option α → Json
  | some a => toJson a
  | none => .null

/-! ### Parameters -/

namespace Network

def toJson (n : Network) : Json := .string n.name

def ofJson : Reader Network := Reader.choice [main, test, regtest] name

end Network

namespace Params

/-- The names of the fields. -/
def fieldNames : List String :=
  ["network", "lock_time_threshold", "coinbase_maturity", "recommended_confirmations",
    "stale_window_secs", "per_operation_fee"]

/-- The fields with their values. -/
def toMembers (p : Params) : List (String × Json) :=
  [("network", p.network.toJson),
    ("lock_time_threshold", .int p.lockTimeThreshold.toNat),
    ("coinbase_maturity", .int p.coinbaseMaturity),
    ("recommended_confirmations", .int p.recommendedConfirmations),
    ("stale_window_secs", .int p.staleWindow),
    ("per_operation_fee", .int p.operationFee)]

def toJson (p : Params) : Json := .object p.toMembers

def ofJson : Reader Params := fun j => do
  let fs ← Fields.of fieldNames j
  let network ← fs.get? "network" Network.ofJson
  let lockTimeThreshold ← fs.get? "lock_time_threshold" Reader.uint32
  let coinbaseMaturity ← fs.get? "coinbase_maturity" Reader.int32
  let recommendedConfirmations ← fs.get? "recommended_confirmations" Reader.int32
  let staleWindow ← fs.get? "stale_window_secs" Reader.int64
  let operationFee ← fs.get? "per_operation_fee" Reader.int64
  return {
    network := network.getD standard.network
    lockTimeThreshold := lockTimeThreshold.getD standard.lockTimeThreshold
    coinbaseMaturity := coinbaseMaturity.getD standard.coinbaseMaturity
    recommendedConfirmations := recommendedConfirmations.getD standard.recommendedConfirmations
    staleWindow := staleWindow.getD standard.staleWindow
    operationFee := operationFee.getD standard.operationFee }

end Params

/-! ### The chain -/

namespace ChainEntry

/-- The names of the fields. -/
def fieldNames : List String :=
  ["block_height", "in_best_chain", "conflict_depth", "blocks_to_maturity"]

def toJson (e : ChainEntry) : Json :=
  .object [
    ("block_height", optionToJson .int e.blockHeight?),
    ("in_best_chain", .bool e.inBestChain),
    ("conflict_depth", optionToJson .int e.conflictDepth?),
    ("blocks_to_maturity", optionToJson .int e.blocksToMaturity?)]

/-- An entry is taken to be in the best chain unless it says otherwise. -/
def ofJson : Reader ChainEntry := fun j => do
  let fs ← Fields.of fieldNames j
  let blockHeight ← fs.get? "block_height" (Reader.nullable Reader.int32)
  let inBestChain ← fs.get? "in_best_chain" Reader.bool
  let conflictDepth ← fs.get? "conflict_depth" (Reader.nullable Reader.int32)
  let blocksToMaturity ← fs.get? "blocks_to_maturity" (Reader.nullable Reader.int32)
  return {
    blockHeight? := blockHeight.getD none
    inBestChain := inBestChain.getD true
    conflictDepth? := conflictDepth.getD none
    blocksToMaturity? := blocksToMaturity.getD none }

end ChainEntry

namespace ChainSnapshot

/-- The names of the fields. -/
def fieldNames : List String := ["height", "median_time_past", "transactions"]

def toJson (c : ChainSnapshot) : Json :=
  .object [
    ("height", .int c.height),
    ("median_time_past", .int c.medianTimePast.toNat),
    ("transactions", hashMapToJson ChainEntry.toJson c.transactions)]

def ofJson : Reader ChainSnapshot := fun j => do
  let fs ← Fields.of fieldNames j
  let height ← fs.get? "height" Reader.int32
  let medianTimePast ← fs.get? "median_time_past" Reader.uint32
  let transactions ← fs.get? "transactions" (Reader.map TxHash.ofKey ChainEntry.ofJson)
  return {
    height := ← fs.require "height" height
    medianTimePast := medianTimePast.getD 0
    transactions := transactions.getD ∅ }

end ChainSnapshot

/-! ### The wallet -/

namespace Ownership

/-- The name of an ownership. -/
def name : Ownership → String
  | foreign => "not_mine"
  | watchOnly => "watch_only"
  | spendable => "spendable"

def toJson (o : Ownership) : Json := .string o.name

def ofJson : Reader Ownership := Reader.choice [foreign, watchOnly, spendable] name

end Ownership

namespace Coin

/-- The names of the fields. -/
def fieldNames : List String := ["outpoint", "output"]

def toJson (c : Coin) : Json :=
  .object [("outpoint", c.outpoint.toJson), ("output", c.output.toJson)]

def ofJson : Reader Coin := fun j => do
  let fs ← Fields.of fieldNames j
  let outpoint ← fs.get? "outpoint" OutPoint.ofJson
  let output ← fs.get? "output" TxOutput.ofJson
  return { outpoint := ← fs.require "outpoint" outpoint, output := ← fs.require "output" output }

end Coin

namespace StoredNote

/-- The names of the fields. -/
def fieldNames : List String := ["txid", "amount", "depth"]

def toJson (n : StoredNote) : Json :=
  .object [("txid", n.txid.toJson), ("amount", .int n.amount), ("depth", .int n.depth)]

def ofJson : Reader StoredNote := fun j => do
  let fs ← Fields.of fieldNames j
  let txid ← fs.get? "txid" TxHash.ofJson
  let amount ← fs.get? "amount" Reader.int64
  let depth ← fs.get? "depth" Reader.int32
  return {
    txid := ← fs.require "txid" txid
    amount := ← fs.require "amount" amount
    depth := depth.getD 0 }

end StoredNote

namespace WalletSnapshot

/-- The names of the fields. -/
def fieldNames : List String :=
  ["addresses", "raw_scripts", "change_addresses", "known_outputs", "spending_keys", "notes"]

/-- The history of each address, as an object. -/
def notesToJson (notes : SortedMap String (List StoredNote)) : Json :=
  textMapToJson (fun ns => .array (ns.map StoredNote.toJson)) notes

def toJson (w : WalletSnapshot) : Json :=
  .object [
    ("addresses", textMapToJson Ownership.toJson w.addresses),
    ("raw_scripts", textMapToJson Ownership.toJson w.rawScripts),
    ("change_addresses", textSetToJson w.changeAddresses),
    ("known_outputs", .array (w.coins.map Coin.toJson)),
    ("spending_keys", textSetToJson w.spendingKeys),
    ("notes", notesToJson w.notes)]

def ofJson : Reader WalletSnapshot := fun j => do
  let fs ← Fields.of fieldNames j
  let addresses ← fs.get? "addresses" (Reader.textMap Ownership.ofJson)
  let rawScripts ← fs.get? "raw_scripts" (Reader.textMap Ownership.ofJson)
  let changeAddresses ← fs.get? "change_addresses" Reader.textSet
  let coins ← fs.get? "known_outputs" (Reader.list Coin.ofJson)
  let spendingKeys ← fs.get? "spending_keys" Reader.textSet
  let notes ← fs.get? "notes" (Reader.textMap (Reader.list StoredNote.ofJson))
  return {
    addresses := addresses.getD ∅
    rawScripts := rawScripts.getD ∅
    changeAddresses := changeAddresses.getD ∅
    coins := coins.getD []
    spendingKeys := spendingKeys.getD ∅
    notes := notes.getD ∅ }

end WalletSnapshot

/-! ### The network -/

namespace RelaySnapshot

/-- The names of the fields. -/
def fieldNames : List String := ["now", "requests"]

def toJson (b : RelaySnapshot) : Json :=
  .object [("now", .int b.now), ("requests", hashMapToJson .int b.requests)]

def ofJson : Reader RelaySnapshot := fun j => do
  let fs ← Fields.of fieldNames j
  let now ← fs.get? "now" Reader.int64
  let requests ← fs.get? "requests" (Reader.map TxHash.ofKey Reader.int32)
  return { now := ← fs.require "now" now, requests := requests.getD ∅ }

end RelaySnapshot

end ShieldedLedger
