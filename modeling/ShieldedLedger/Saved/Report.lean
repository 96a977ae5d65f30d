import ShieldedLedger.Bundle
import ShieldedLedger.Json.Parser
import ShieldedLedger.Saved.Snapshot

/-!
# The saved form of bundles and reports

How records, statuses, classifications, bundles and reports are written as JSON and read back.

## Main definitions

* `toJson` and `ofJson` of `Record`, `Status`, `Notice`, `Classification`, `Bundle`, `Report` and
  the rest
-/

namespace ShieldedLedger

open Json

/-! ### Records -/

namespace RecordKind

/-- The name of a kind. -/
def name : RecordKind → String
  | receivedTransparent => "received_transparent"
  | receivedFromUnknown => "received_from_unknown"
  | sentTransparent => "sent_transparent"
  | sentToUnknown => "sent_to_unknown"
  | selfTransfer => "self_transfer"
  | shieldedReceive => "shielded_receive"
  | shieldedSend => "shielded_send"
  | shieldedPool => "shielded_pool"
  | generated => "generated"
  | mixed => "mixed"

/-- All kinds. -/
def all : List RecordKind :=
  [receivedTransparent, receivedFromUnknown, sentTransparent, sentToUnknown, selfTransfer,
    shieldedReceive, shieldedSend, shieldedPool, generated, mixed]

def toJson (k : RecordKind) : Json := .string k.name

def ofJson : Reader RecordKind := Reader.choice all name

end RecordKind

namespace Record

/-- The names of the fields. -/
def fieldNames : List String :=
  ["hash", "index", "time", "kind", "address", "debit", "credit", "fee", "involves_watch_only"]

def toJson (r : Record) : Json :=
  .object [
    ("hash", r.hash.toJson),
    ("index", .int r.index),
    ("time", .int r.time.toNat),
    ("kind", r.kind.toJson),
    ("address", .string r.address),
    ("debit", .int r.debit),
    ("credit", .int r.credit),
    ("fee", .int r.fee),
    ("involves_watch_only", .bool r.watchOnly)]

def ofJson : Reader Record := fun j => do
  let fs ← Fields.of fieldNames j
  let hash ← fs.get? "hash" TxHash.ofJson
  let index ← fs.get? "index" (Reader.natBelow UInt32.size)
  let time ← fs.get? "time" Reader.uint32
  let kind ← fs.get? "kind" RecordKind.ofJson
  let address ← fs.get? "address" Reader.string
  let debit ← fs.get? "debit" Reader.int64
  let credit ← fs.get? "credit" Reader.int64
  let fee ← fs.get? "fee" Reader.int64
  let watchOnly ← fs.get? "involves_watch_only" Reader.bool
  return {
    hash := ← fs.require "hash" hash
    index := ← fs.require "index" index
    time := ← fs.require "time" time
    kind := ← fs.require "kind" kind
    address := ← fs.require "address" address
    debit := ← fs.require "debit" debit
    credit := ← fs.require "credit" credit
    fee := fee.getD 0
    watchOnly := ← fs.require "involves_watch_only" watchOnly }

end Record

/-! ### Statuses -/

namespace TxState

/-- The name of a state. -/
def name : TxState → String
  | openUntilBlock => "open_until_block"
  | openUntilDate => "open_until_date"
  | immature => "immature"
  | maturesWarning => "matures_warning"
  | notAccepted => "not_accepted"
  | conflicted => "conflicted"
  | offline => "offline"
  | unconfirmed => "unconfirmed"
  | confirming => "confirming"
  | confirmed => "confirmed"

/-- All states. -/
def all : List TxState :=
  [openUntilBlock, openUntilDate, immature, maturesWarning, notAccepted, conflicted, offline,
    unconfirmed, confirming, confirmed]

def toJson (s : TxState) : Json := .string s.name

def ofJson : Reader TxState := Reader.choice all name

end TxState

namespace SortKey

/-- The names of the fields. -/
def fieldNames : List String := ["height", "coinbase", "time_received", "index"]

def toJson (k : SortKey) : Json :=
  .object [
    ("height", .int k.height),
    ("coinbase", .bool k.coinbase),
    ("time_received", .int k.timeReceived.toNat),
    ("index", .int k.index)]

def ofJson : Reader SortKey := fun j => do
  let fs ← Fields.of fieldNames j
  let height ← fs.get? "height" Reader.int32
  let coinbase ← fs.get? "coinbase" Reader.bool
  let timeReceived ← fs.get? "time_received" Reader.uint32
  let index ← fs.get? "index" (Reader.natBelow UInt32.size)
  return {
    height := ← fs.require "height" height
    coinbase := ← fs.require "coinbase" coinbase
    timeReceived := ← fs.require "time_received" timeReceived
    index := ← fs.require "index" index }

end SortKey

namespace Status

/-- The names of the fields. -/
def fieldNames : List String :=
  ["state", "sort_key", "depth", "matures_in", "open_for", "counts_for_balance", "cur_num_blocks"]

def toJson (s : Status) : Json :=
  .object [
    ("state", s.state.toJson),
    ("sort_key", s.sortKey.toJson),
    ("depth", .int s.depth),
    ("matures_in", .int s.maturesIn),
    ("open_for", .int s.openFor),
    ("counts_for_balance", .bool s.countsForBalance),
    ("cur_num_blocks", .int s.tip)]

def ofJson : Reader Status := fun j => do
  let fs ← Fields.of fieldNames j
  let state ← fs.get? "state" TxState.ofJson
  let sortKey ← fs.get? "sort_key" SortKey.ofJson
  let depth ← fs.get? "depth" Reader.int32
  let maturesIn ← fs.get? "matures_in" Reader.int32
  let openFor ← fs.get? "open_for" Reader.int64
  let countsForBalance ← fs.get? "counts_for_balance" Reader.bool
  let tip ← fs.get? "cur_num_blocks" Reader.int32
  return {
    state := ← fs.require "state" state
    sortKey := ← fs.require "sort_key" sortKey
    depth := ← fs.require "depth" depth
    maturesIn := ← fs.require "matures_in" maturesIn
    openFor := ← fs.require "open_for" openFor
    countsForBalance := ← fs.require "counts_for_balance" countsForBalance
    tip := ← fs.require "cur_num_blocks" tip }

end Status

/-! ### Classifications -/

namespace Shape

/-- The name of a shape. -/
def name : Shape → String
  | plain => "plain"
  | shieldedIn => "shielded_in"
  | shieldedOut => "shielded_out"
  | shieldedBoth => "shielded_both"
  | shieldedNone => "shielded_none"

/-- All shapes. -/
def all : List Shape := [plain, shieldedIn, shieldedOut, shieldedBoth, shieldedNone]

def toJson (s : Shape) : Json := .string s.name

def ofJson : Reader Shape := Reader.choice all name

end Shape

namespace Notice

/-- The kinds of notices. -/
inductive Kind where
  | degradedToMixed
  | severalNotes
  | notRelevant
  deriving DecidableEq, Repr

namespace Kind

/-- The name of a kind. -/
def name : Kind → String
  | degradedToMixed => "degraded_to_mixed"
  | severalNotes => "multiple_shielded_candidates"
  | notRelevant => "not_relevant"

/-- All kinds. -/
def all : List Kind := [degradedToMixed, severalNotes, notRelevant]

/-- Reads a kind from its name. -/
def ofJson : Reader Kind := Reader.plainChoice all name

/-- Reads a kind from its name or from its place among all kinds. -/
def ofJsonOrPlace : Reader Kind
  | .int (.ofNat n) =>
    match all[n]? with
    | some k => .ok k
    | none => .error .mismatch
  | j => ofJson j

end Kind

/-- The members that say what a notice is. -/
def toMembers : Notice → List (String × Json)
  | degradedToMixed net => [("notice", .string (Kind.name .degradedToMixed)), ("net", .int net)]
  | severalNotes count => [("notice", .string (Kind.name .severalNotes)), ("count", .int count)]
  | notRelevant => [("notice", .string (Kind.name .notRelevant))]

def toJson (n : Notice) : Json := .object n.toMembers

/-- A count of 64 bits. -/
def count : Reader Nat := Reader.natBelow UInt64.size

/-- Reads a notice of some kind from the fields beside its name. -/
def ofFields (kind : Kind) (j : Json) : Except ReadError Notice :=
  match kind with
  | .degradedToMixed => do
    let fs ← Fields.of ["net"] j
    return .degradedToMixed (← fs.require "net" (← fs.get? "net" Reader.int64))
  | .severalNotes => do
    let fs ← Fields.of ["count"] j
    return .severalNotes (← fs.require "count" (← fs.get? "count" count))
  | .notRelevant =>
    match j with
    | .array (_ :: _) => .error .mismatch
    | _ => .ok .notRelevant

/-- Reads a notice from the members of an object. -/
def ofMembers (kind : Reader Kind) (members : List (String × Json)) : Except ReadError Notice := do
  let fs ← Fields.of ["notice"] (.object members)
  let k ← fs.require "notice" (← fs.get? "notice" kind)
  ofFields k (.object (members.filter (·.1 != "notice")))

/-- Reads a notice. Since its kind may stand after its fields, everything in it must have
content. -/
def ofJson : Reader Notice := fun j =>
  if !j.isReadable then .error .mismatch
  else match j with
    | .object members => ofMembers Kind.ofJson members
    | .array [] => .error (.missingField "notice")
    | .array (tag :: rest) => do
      let k ← Kind.ofJson tag
      ofFields k (.array rest)
    | _ => .error .mismatch

end Notice

namespace Classification

/-- The names of the fields. -/
def fieldNames : List String := ["shape", "records", "notices"]

def toJson (c : Classification) : Json :=
  .object [
    ("shape", c.shape.toJson),
    ("records", .array (c.records.map Record.toJson)),
    ("notices", .array (c.notices.map Notice.toJson))]

def ofJson : Reader Classification := fun j => do
  let fs ← Fields.of fieldNames j
  let shape ← fs.get? "shape" Shape.ofJson
  let records ← fs.get? "records" (Reader.list Record.ofJson)
  let notices ← fs.get? "notices" (Reader.list Notice.ofJson)
  return {
    shape := ← fs.require "shape" shape
    records := ← fs.require "records" records
    notices := notices.getD [] }

end Classification

/-! ### Bundles and reports -/

namespace Bundle

/-- The names of the fields. -/
def fieldNames : List String := ["params", "chain", "wallet", "broadcast", "transactions"]

def toJson (b : Bundle) : Json :=
  .object [
    ("params", optionToJson Params.toJson b.params?),
    ("chain", b.chain.toJson),
    ("wallet", b.wallet.toJson),
    ("broadcast", b.relay.toJson),
    ("transactions", .array (b.transactions.map Transaction.toJson))]

def ofJson : Reader Bundle := fun j => do
  let fs ← Fields.of fieldNames j
  let params ← fs.get? "params" (Reader.nullable Params.ofJson)
  let chain ← fs.get? "chain" ChainSnapshot.ofJson
  let wallet ← fs.get? "wallet" WalletSnapshot.ofJson
  let relay ← fs.get? "broadcast" RelaySnapshot.ofJson
  let transactions ← fs.get? "transactions" (Reader.list Transaction.ofJson)
  return {
    params? := params.getD none
    chain := ← fs.require "chain" chain
    wallet := wallet.getD .empty
    relay := relay.getD (.atTime 0)
    transactions := transactions.getD [] }

end Bundle

namespace ReportEntry

/-- The names of the fields. -/
def fieldNames : List String := ["record", "status"]

def toJson (e : ReportEntry) : Json :=
  .object [("record", e.record.toJson), ("status", e.status.toJson)]

def ofJson : Reader ReportEntry := fun j => do
  let fs ← Fields.of fieldNames j
  let record ← fs.get? "record" Record.ofJson
  let status ← fs.get? "status" Status.ofJson
  return { record := ← fs.require "record" record, status := ← fs.require "status" status }

end ReportEntry

namespace TxNotice

def toJson (n : TxNotice) : Json := .object (("tx", n.tx.toJson) :: n.notice.toMembers)

/-- Reads a notice with its transaction. The notice stands among the members of the same object, so
everything beside the transaction must have content. -/
def ofJson : Reader TxNotice
  | .object members => do
    let fs ← Fields.of ["tx"] (.object members)
    let tx ← fs.get? "tx" TxHash.ofJson
    let others := members.filter (·.1 != "tx")
    if !membersReadable others then .error .mismatch
    else
      let tx ← fs.require "tx" tx
      let notice ← Notice.ofMembers Notice.Kind.ofJsonOrPlace others
      return { tx, notice }
  | _ => .error .mismatch

end TxNotice

namespace Report

/-- The names of the fields. -/
def fieldNames : List String := ["entries", "notices"]

def toJson (r : Report) : Json :=
  .object [
    ("entries", .array (r.entries.map ReportEntry.toJson)),
    ("notices", .array (r.notices.map TxNotice.toJson))]

def ofJson : Reader Report := fun j => do
  let fs ← Fields.of fieldNames j
  let entries ← fs.get? "entries" (Reader.list ReportEntry.ofJson)
  let notices ← fs.get? "notices" (Reader.list TxNotice.ofJson)
  return { entries := ← fs.require "entries" entries, notices := ← fs.require "notices" notices }

end Report

/-- Reads a value from text. -/
def Json.Reader.ofText {α : Type} (r : Reader α) (text : String) : Except ReadError α :=
  match Json.parse? text with
  | some j => r j
  | none => .error .mismatch

end ShieldedLedger
