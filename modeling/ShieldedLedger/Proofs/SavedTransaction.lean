import ShieldedLedger.Proofs.HexText
import ShieldedLedger.Proofs.RoundTrip

/-!
# Saved transactions come back

The law of writing and reading for transactions and their parts. Only amounts have a range: hashes,
indices and times are words of the size that is read, and texts and bytes are read whatever they
are.

## Main definitions

* `InRange` of `TxOutput`, `PoolTransfer` and `Transaction`

## Main results

* `roundTrips` of the same types, and of those that need no range
-/

namespace ShieldedLedger

open Json

/-! ### Hashes and bytes -/

theorem TxHash.ofKey_toHex (h : TxHash) : TxHash.ofKey h.toHex = .ok h := by
  rw [ofKey, parse_toHex]

theorem TxHash.roundTrips : RoundTrips toJson ofJson := .intro ofKey_toHex

theorem Json.RoundTrips.bytes : RoundTrips bytesToJson Reader.bytes := RoundTrips.uint8.list

/-- A map with hashes as keys. -/
theorem Json.RoundTripsOn.hashMap {α : Type} {write : α → Json} {read : Reader α}
    {inRange : α → Prop} (h : RoundTripsOn inRange write read) :
    RoundTripsOn (fun m => ∀ e ∈ m.entries, inRange e.2) (hashMapToJson write)
      (Reader.map TxHash.ofKey read) :=
  h.map TxHash.ofKey_toHex

/-! ### The transparent side -/

theorem OutPoint.roundTrips : RoundTrips toJson ofJson := .intro fun p => by
  refine Fields.of_object_bind (by decide) rfl ?_
  refine Fields.get?_bind rfl (TxHash.roundTrips.read_write _) ?_
  refine Fields.get?_bind rfl (RoundTrips.uint32.read_write _) ?_
  rfl

theorem TxInput.roundTrips : RoundTrips toJson ofJson := .intro fun i => by
  refine Fields.of_object_bind (by decide) rfl ?_
  refine Fields.get?_bind rfl (OutPoint.roundTrips.read_write _) ?_
  rfl

namespace Script

theorem Kind.alternative_name (k : Kind) :
    Reader.alternative Kind.all Kind.name k.name = .ok k := by
  cases k <;> rfl

theorem roundTrips : RoundTrips toJson ofJson := .intro fun s => by
  cases s with
  | address destination =>
    refine Fields.of_object_bind (by decide) rfl ?_
    refine Fields.get?_bind rfl (Kind.alternative_name .address) (Fields.require_bind ?_)
    refine Fields.get?_bind rfl (bind_of_eq_ok (RoundTrips.string.read_write destination)) ?_
    rfl
  | raw bytes =>
    refine Fields.of_object_bind (by decide) rfl ?_
    refine Fields.get?_bind rfl (Kind.alternative_name .raw) (Fields.require_bind ?_)
    refine Fields.get?_bind rfl (bind_of_eq_ok (RoundTrips.bytes.read_write bytes)) ?_
    rfl

end Script

namespace TxOutput

/-- The value is an integer of 64 bits. -/
structure InRange (out : TxOutput) : Prop where
  value : IsInt64 out.value

theorem roundTrips : RoundTripsOn InRange toJson ofJson where
  read_write {out} h := by
    refine Fields.of_object_bind (by decide) rfl ?_
    refine Fields.get?_bind rfl (RoundTripsOn.int64.read_write h.value) ?_
    refine Fields.get?_bind rfl (Script.roundTrips.read_write _) ?_
    rfl
  yields_read j := by
    refine .skip fun fs => ?_
    refine .bind (Fields.yields_get? RoundTripsOn.int64.yields_read) fun value hvalue => ?_
    refine .skip fun script => ?_
    refine .bind (Fields.yields_require hvalue) fun value hvalue => ?_
    exact .skip fun script => .pure ⟨hvalue⟩

end TxOutput

/-! ### The shielded side -/

namespace PoolTransfer

/-- The amounts are integers of 64 bits. -/
structure InRange (t : PoolTransfer) : Prop where
  entering : IsInt64 t.entering
  leaving : IsInt64 t.leaving

theorem roundTrips : RoundTripsOn InRange toJson ofJson where
  read_write {t} h := by
    refine Fields.of_object_bind (by decide) rfl ?_
    refine Fields.get?_bind rfl (RoundTripsOn.int64.read_write h.entering) ?_
    refine Fields.get?_bind rfl (RoundTripsOn.int64.read_write h.leaving) ?_
    refine Fields.get?_bind rfl (RoundTrips.bytes.list.read_write _) ?_
    rfl
  yields_read j := by
    refine .skip fun fs => ?_
    refine .bind (Fields.yields_get? RoundTripsOn.int64.yields_read) fun entering hentering => ?_
    refine .bind (Fields.yields_get? RoundTripsOn.int64.yields_read) fun leaving hleaving => ?_
    refine .skip fun ciphertexts => ?_
    refine .bind (Fields.yields_require hentering) fun entering hentering => ?_
    refine .bind (Fields.yields_require hleaving) fun leaving hleaving => ?_
    exact .pure ⟨hentering, hleaving⟩

end PoolTransfer

theorem NotePosition.roundTrips : RoundTrips toJson ofJson := .intro fun n => by
  refine Fields.of_object_bind (by decide) rfl ?_
  refine Fields.get?_bind rfl (RoundTrips.uint32.read_write _) ?_
  refine Fields.get?_bind rfl (RoundTrips.uint8.read_write _) ?_
  rfl

/-! ### The whole -/

namespace Transaction

/-- All amounts are integers of 64 bits. -/
structure InRange (tx : Transaction) : Prop where
  outputs : ∀ out ∈ tx.outputs, out.InRange
  shielded : ∀ t ∈ tx.shielded, t.InRange

theorem roundTrips : RoundTripsOn InRange toJson ofJson where
  read_write {tx} h := by
    refine Fields.of_object_bind (by decide) rfl ?_
    refine Fields.get?_bind rfl (TxHash.roundTrips.read_write _) ?_
    refine Fields.get?_bind rfl (TxInput.roundTrips.list.read_write _) ?_
    refine Fields.get?_bind rfl (TxOutput.roundTrips.list.read_write h.outputs) ?_
    refine Fields.get?_bind rfl (PoolTransfer.roundTrips.list.read_write h.shielded) ?_
    refine Fields.get?_bind rfl (NotePosition.roundTrips.list.read_write _) ?_
    refine Fields.get?_bind rfl (RoundTrips.bool.read_write _) ?_
    refine Fields.get?_bind rfl (RoundTrips.uint32.read_write _) ?_
    refine Fields.get?_bind rfl (RoundTrips.uint32.read_write _) ?_
    refine Fields.get?_bind rfl (RoundTrips.string.textMap.read_write _) ?_
    rfl
  yields_read j := by
    refine .skip fun fs => .skip fun hash => .skip fun inputs => ?_
    refine .bind (Fields.yields_get? TxOutput.roundTrips.list.yields_read)
      fun outputs houtputs => ?_
    refine .bind (Fields.yields_get? PoolTransfer.roundTrips.list.yields_read)
      fun shielded hshielded => ?_
    refine .skip fun noteData => .skip fun isCoinbase => .skip fun lockTime => ?_
    refine .skip fun timeReceived => .skip fun metadata => ?_
    refine .skip fun hash => .skip fun timeReceived => .pure ⟨?_, ?_⟩
    · exact getD_of_forall_mem houtputs nofun
    · exact getD_of_forall_mem hshielded nofun

end Transaction

end ShieldedLedger
