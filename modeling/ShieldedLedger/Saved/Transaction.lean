import ShieldedLedger.Json.Reader

/-!
# The saved form of transactions

How hashes, transactions and their parts are written as JSON and read back. Writing gives every
field, in order; reading accepts what `Json.Fields` accepts.

## Main definitions

* `toJson` and `ofJson` of `TxHash`, `OutPoint`, `Script`, `TxOutput`, `Transaction` and the rest
-/

namespace ShieldedLedger

open Json

/-! ### Hashes -/

/-- A hash as its hexadecimal text. -/
def TxHash.toJson (h : TxHash) : Json := .string h.toHex

/-- Reads a hash from a text that is known to be one, such as the name of a member. -/
def TxHash.ofKey (text : String) : Except ReadError TxHash :=
  match TxHash.parse text with
  | .ok h => .ok h
  | .error fault => .error (.badHash fault)

/-- Reads a hash. -/
def TxHash.ofJson : Reader TxHash
  | .string s => TxHash.ofKey s
  | _ => .error .mismatch

/-- A list of bytes as numbers. -/
def bytesToJson (bytes : List UInt8) : Json := .array (bytes.map fun b => .int b.toNat)

/-! ### The transparent side -/

namespace OutPoint

/-- The names of the fields. -/
def fieldNames : List String := ["txid", "index"]

def toJson (p : OutPoint) : Json :=
  .object [("txid", p.txid.toJson), ("index", .int p.index.toNat)]

def ofJson : Reader OutPoint := fun j => do
  let fs ← Fields.of fieldNames j
  let txid ← fs.get? "txid" TxHash.ofJson
  let index ← fs.get? "index" Reader.uint32
  return { txid := ← fs.require "txid" txid, index := ← fs.require "index" index }

end OutPoint

namespace TxInput

/-- The names of the fields. -/
def fieldNames : List String := ["prevout"]

def toJson (i : TxInput) : Json := .object [("prevout", i.prevout.toJson)]

def ofJson : Reader TxInput := fun j => do
  let fs ← Fields.of fieldNames j
  let prevout ← fs.get? "prevout" OutPoint.ofJson
  return { prevout := ← fs.require "prevout" prevout }

end TxInput

namespace Script

/-- The kinds of scripts. -/
inductive Kind where
  | address
  | raw
  deriving DecidableEq, Repr

/-- The name of a kind. -/
def Kind.name : Kind → String
  | address => "pay_to_address"
  | raw => "non_standard"

/-- All kinds. -/
def Kind.all : List Kind := [address, raw]

/-- How the kind of a script is read, which depends on how the script is written: an object may give
the kind in any form of a choice, a list only as a plain name. -/
def Kind.readerIn : Json → Reader Kind
  | .array _ => Reader.plainChoice all name
  | _ => Reader.choice all name

/-- The names of the fields. -/
def fieldNames : List String := ["type", "data"]

def toJson : Script → Json
  | address destination =>
    .object [("type", .string (Kind.name .address)), ("data", .string destination)]
  | raw bytes => .object [("type", .string (Kind.name .raw)), ("data", bytesToJson bytes)]

/-- Reads the content of a script of some kind. -/
def contentOfJson (kind : Kind) : Reader Script := fun j =>
  match kind with
  | .address => return .address (← Reader.string j)
  | .raw => return .raw (← Reader.bytes j)

/-- The kind is read before the content, wherever it stands. -/
def ofJson : Reader Script := fun j => do
  let fs ← Fields.of fieldNames j
  let kind ← fs.require "type" (← fs.get? "type" (Kind.readerIn j))
  fs.require "data" (← fs.get? "data" (contentOfJson kind))

end Script

namespace TxOutput

/-- The names of the fields. -/
def fieldNames : List String := ["value", "script"]

def toJson (out : TxOutput) : Json :=
  .object [("value", .int out.value), ("script", out.script.toJson)]

def ofJson : Reader TxOutput := fun j => do
  let fs ← Fields.of fieldNames j
  let value ← fs.get? "value" Reader.int64
  let script ← fs.get? "script" Script.ofJson
  return { value := ← fs.require "value" value, script := ← fs.require "script" script }

end TxOutput

/-! ### The shielded side -/

namespace PoolTransfer

/-- The names of the fields. -/
def fieldNames : List String := ["value_in", "value_out", "ciphertexts"]

def toJson (t : PoolTransfer) : Json :=
  .object [("value_in", .int t.entering), ("value_out", .int t.leaving),
    ("ciphertexts", .array (t.ciphertexts.map bytesToJson))]

def ofJson : Reader PoolTransfer := fun j => do
  let fs ← Fields.of fieldNames j
  let entering ← fs.get? "value_in" Reader.int64
  let leaving ← fs.get? "value_out" Reader.int64
  let ciphertexts ← fs.get? "ciphertexts" (Reader.list Reader.bytes)
  return {
    entering := ← fs.require "value_in" entering
    leaving := ← fs.require "value_out" leaving
    ciphertexts := ciphertexts.getD [] }

end PoolTransfer

namespace NotePosition

/-- The names of the fields. -/
def fieldNames : List String := ["descriptor", "output"]

def toJson (n : NotePosition) : Json :=
  .object [("descriptor", .int n.transfer.toNat), ("output", .int n.output.toNat)]

def ofJson : Reader NotePosition := fun j => do
  let fs ← Fields.of fieldNames j
  let transfer ← fs.get? "descriptor" Reader.uint32
  let output ← fs.get? "output" Reader.uint8
  return {
    transfer := ← fs.require "descriptor" transfer
    output := ← fs.require "output" output }

end NotePosition

namespace Note

/-- The names of the fields. -/
def fieldNames : List String := ["txid", "amount", "address"]

def toJson (n : Note) : Json :=
  .object [("txid", n.txid.toJson), ("amount", .int n.amount), ("address", .string n.address)]

def ofJson : Reader Note := fun j => do
  let fs ← Fields.of fieldNames j
  let txid ← fs.get? "txid" TxHash.ofJson
  let amount ← fs.get? "amount" Reader.int64
  let address ← fs.get? "address" Reader.string
  return {
    txid := ← fs.require "txid" txid
    amount := ← fs.require "amount" amount
    address := ← fs.require "address" address }

end Note

/-! ### The whole -/

/-- A map with texts as keys, as an object. -/
def textMapToJson {α : Type} (toJson : α → Json) (m : SortedMap String α) : Json :=
  .object (m.entries.map fun e => (e.1, toJson e.2))

/-- A map with hashes as keys, as an object. -/
def hashMapToJson {α : Type} (toJson : α → Json) (m : SortedMap TxHash α) : Json :=
  .object (m.entries.map fun e => (e.1.toHex, toJson e.2))

/-- A set of texts, as a list. -/
def textSetToJson (s : SortedSet String) : Json := .array (s.keys.map .string)

namespace Transaction

/-- The names of the fields. -/
def fieldNames : List String :=
  ["hash", "inputs", "outputs", "shielded", "note_data", "is_coinbase", "lock_time",
    "time_received", "metadata"]

def toJson (tx : Transaction) : Json :=
  .object [
    ("hash", tx.hash.toJson),
    ("inputs", .array (tx.inputs.map TxInput.toJson)),
    ("outputs", .array (tx.outputs.map TxOutput.toJson)),
    ("shielded", .array (tx.shielded.map PoolTransfer.toJson)),
    ("note_data", .array (tx.noteData.map NotePosition.toJson)),
    ("is_coinbase", .bool tx.isCoinbase),
    ("lock_time", .int tx.lockTime.toNat),
    ("time_received", .int tx.timeReceived.toNat),
    ("metadata", textMapToJson .string tx.metadata)]

def ofJson : Reader Transaction := fun j => do
  let fs ← Fields.of fieldNames j
  let hash ← fs.get? "hash" TxHash.ofJson
  let inputs ← fs.get? "inputs" (Reader.list TxInput.ofJson)
  let outputs ← fs.get? "outputs" (Reader.list TxOutput.ofJson)
  let shielded ← fs.get? "shielded" (Reader.list PoolTransfer.ofJson)
  let noteData ← fs.get? "note_data" (Reader.list NotePosition.ofJson)
  let isCoinbase ← fs.get? "is_coinbase" Reader.bool
  let lockTime ← fs.get? "lock_time" Reader.uint32
  let timeReceived ← fs.get? "time_received" Reader.uint32
  let metadata ← fs.get? "metadata" (Reader.textMap Reader.string)
  return {
    hash := ← fs.require "hash" hash
    inputs := inputs.getD []
    outputs := outputs.getD []
    shielded := shielded.getD []
    noteData := noteData.getD []
    isCoinbase := isCoinbase.getD false
    lockTime := lockTime.getD 0
    timeReceived := ← fs.require "time_received" timeReceived
    metadata := metadata.getD ∅ }

end Transaction

end ShieldedLedger
