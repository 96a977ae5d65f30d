import ShieldedLedger.Proofs.SavedTransaction

/-!
# Saved snapshots come back

The law of writing and reading for parameters and for the snapshots of chain, wallet and network.
Heights, depths and counts are integers of 32 bits, amounts and times of 64. What is absent is
written as `null` and not left out, so a default never takes its place.

## Main definitions

* `InRange` of `Params`, `ChainSnapshot`, `WalletSnapshot`, `RelaySnapshot` and their parts

## Main results

* `roundTrips` of the same types
-/

namespace ShieldedLedger

open Json

/-- An integer that may be absent. -/
theorem Json.RoundTripsOn.optionalInt32 :
    RoundTripsOn (fun o => ∀ z ∈ o, IsInt32 z) (optionToJson .int)
      (Reader.nullable Reader.int32) :=
  RoundTripsOn.int32.nullable nofun

/-! ### Parameters -/

theorem Network.roundTrips : RoundTrips toJson ofJson := .choice fun n => by cases n <;> rfl

namespace Params

/-- Depths are integers of 32 bits, times and fees of 64. -/
structure InRange (p : Params) : Prop where
  coinbaseMaturity : IsInt32 p.coinbaseMaturity
  recommendedConfirmations : IsInt32 p.recommendedConfirmations
  staleWindow : IsInt64 p.staleWindow
  operationFee : IsInt64 p.operationFee

/-- The defaults of all fields are in range. -/
theorem inRange_standard : standard.InRange :=
  ⟨by decide, by decide, by decide, by decide⟩

theorem roundTrips : RoundTripsOn InRange toJson ofJson where
  read_write {p} h := by
    refine Fields.of_object_bind (by decide) rfl ?_
    refine Fields.get?_bind rfl (Network.roundTrips.read_write _) ?_
    refine Fields.get?_bind rfl (RoundTrips.uint32.read_write _) ?_
    refine Fields.get?_bind rfl (RoundTripsOn.int32.read_write h.coinbaseMaturity) ?_
    refine Fields.get?_bind rfl (RoundTripsOn.int32.read_write h.recommendedConfirmations) ?_
    refine Fields.get?_bind rfl (RoundTripsOn.int64.read_write h.staleWindow) ?_
    refine Fields.get?_bind rfl (RoundTripsOn.int64.read_write h.operationFee) ?_
    rfl
  yields_read j := by
    refine .skip fun fs => .skip fun network => .skip fun lockTimeThreshold => ?_
    refine .bind (Fields.yields_get? RoundTripsOn.int32.yields_read) fun maturity hmaturity => ?_
    refine .bind (Fields.yields_get? RoundTripsOn.int32.yields_read) fun depth hdepth => ?_
    refine .bind (Fields.yields_get? RoundTripsOn.int64.yields_read) fun window hwindow => ?_
    refine .bind (Fields.yields_get? RoundTripsOn.int64.yields_read) fun fee hfee => ?_
    obtain ⟨hmaturity', hdepth', hwindow', hfee'⟩ := inRange_standard
    exact .pure ⟨getD_of_forall_mem hmaturity hmaturity', getD_of_forall_mem hdepth hdepth',
      getD_of_forall_mem hwindow hwindow', getD_of_forall_mem hfee hfee'⟩

end Params

/-! ### The chain -/

namespace ChainEntry

/-- What the entry knows of heights and depths are integers of 32 bits. -/
structure InRange (e : ChainEntry) : Prop where
  blockHeight : ∀ z ∈ e.blockHeight?, IsInt32 z
  conflictDepth : ∀ z ∈ e.conflictDepth?, IsInt32 z
  blocksToMaturity : ∀ z ∈ e.blocksToMaturity?, IsInt32 z

theorem roundTrips : RoundTripsOn InRange toJson ofJson where
  read_write {e} h := by
    refine Fields.of_object_bind (by decide) rfl ?_
    refine Fields.get?_bind rfl (RoundTripsOn.optionalInt32.read_write h.blockHeight) ?_
    refine Fields.get?_bind rfl (RoundTrips.bool.read_write _) ?_
    refine Fields.get?_bind rfl (RoundTripsOn.optionalInt32.read_write h.conflictDepth) ?_
    refine Fields.get?_bind rfl (RoundTripsOn.optionalInt32.read_write h.blocksToMaturity) ?_
    rfl
  yields_read j := by
    refine .skip fun fs => ?_
    refine .bind (Fields.yields_get? RoundTripsOn.optionalInt32.yields_read) fun block hblock => ?_
    refine .skip fun inBestChain => ?_
    refine .bind (Fields.yields_get? RoundTripsOn.optionalInt32.yields_read)
      fun conflict hconflict => ?_
    refine .bind (Fields.yields_get? RoundTripsOn.optionalInt32.yields_read)
      fun blocks hblocks => ?_
    exact .pure ⟨getD_of_forall_mem hblock nofun, getD_of_forall_mem hconflict nofun,
      getD_of_forall_mem hblocks nofun⟩

end ChainEntry

namespace ChainSnapshot

/-- The height of the tip is an integer of 32 bits, and so is what the entries know. -/
structure InRange (c : ChainSnapshot) : Prop where
  height : IsInt32 c.height
  transactions : ∀ e ∈ c.transactions.entries, e.2.InRange

theorem roundTrips : RoundTripsOn InRange toJson ofJson where
  read_write {c} h := by
    refine Fields.of_object_bind (by decide) rfl ?_
    refine Fields.get?_bind rfl (RoundTripsOn.int32.read_write h.height) ?_
    refine Fields.get?_bind rfl (RoundTrips.uint32.read_write _) ?_
    refine Fields.get?_bind rfl (ChainEntry.roundTrips.hashMap.read_write h.transactions) ?_
    rfl
  yields_read j := by
    refine .skip fun fs => ?_
    refine .bind (Fields.yields_get? RoundTripsOn.int32.yields_read) fun height hheight => ?_
    refine .skip fun medianTimePast => ?_
    refine .bind (Fields.yields_get? ChainEntry.roundTrips.hashMap.yields_read)
      fun transactions htransactions => ?_
    refine .bind (Fields.yields_require hheight) fun height hheight => ?_
    exact .pure ⟨hheight, getD_of_forall_mem htransactions nofun⟩

end ChainSnapshot

/-! ### The wallet -/

theorem Ownership.roundTrips : RoundTrips toJson ofJson := .choice fun o => by cases o <;> rfl

namespace Coin

theorem roundTrips : RoundTripsOn (·.output.InRange) toJson ofJson where
  read_write {c} h := by
    refine Fields.of_object_bind (by decide) rfl ?_
    refine Fields.get?_bind rfl (OutPoint.roundTrips.read_write _) ?_
    refine Fields.get?_bind rfl (TxOutput.roundTrips.read_write h) ?_
    rfl
  yields_read j := by
    refine .skip fun fs => .skip fun outpoint => ?_
    refine .bind (Fields.yields_get? TxOutput.roundTrips.yields_read) fun output houtput => ?_
    refine .skip fun outpoint => ?_
    exact .bind (Fields.yields_require houtput) fun output houtput => .pure houtput

end Coin

namespace StoredNote

/-- The amount is an integer of 64 bits, and the depth one of 32. -/
structure InRange (n : StoredNote) : Prop where
  amount : IsInt64 n.amount
  depth : IsInt32 n.depth

theorem roundTrips : RoundTripsOn InRange toJson ofJson where
  read_write {n} h := by
    refine Fields.of_object_bind (by decide) rfl ?_
    refine Fields.get?_bind rfl (TxHash.roundTrips.read_write _) ?_
    refine Fields.get?_bind rfl (RoundTripsOn.int64.read_write h.amount) ?_
    refine Fields.get?_bind rfl (RoundTripsOn.int32.read_write h.depth) ?_
    rfl
  yields_read j := by
    refine .skip fun fs => .skip fun txid => ?_
    refine .bind (Fields.yields_get? RoundTripsOn.int64.yields_read) fun amount hamount => ?_
    refine .bind (Fields.yields_get? RoundTripsOn.int32.yields_read) fun depth hdepth => ?_
    refine .skip fun txid => ?_
    refine .bind (Fields.yields_require hamount) fun amount hamount => ?_
    exact .pure ⟨hamount, getD_of_forall_mem hdepth (by decide)⟩

end StoredNote

namespace WalletSnapshot

/-- The values of the outputs and the notes that the wallet has seen are in range. -/
structure InRange (w : WalletSnapshot) : Prop where
  coins : ∀ c ∈ w.coins, c.output.InRange
  notes : ∀ e ∈ w.notes.entries, ∀ n ∈ e.2, n.InRange

theorem roundTrips : RoundTripsOn InRange toJson ofJson where
  read_write {w} h := by
    refine Fields.of_object_bind (by decide) rfl ?_
    refine Fields.get?_bind rfl (Ownership.roundTrips.textMap.read_write _) ?_
    refine Fields.get?_bind rfl (Ownership.roundTrips.textMap.read_write _) ?_
    refine Fields.get?_bind rfl (RoundTrips.textSet.read_write _) ?_
    refine Fields.get?_bind rfl (Coin.roundTrips.list.read_write h.coins) ?_
    refine Fields.get?_bind rfl (RoundTrips.textSet.read_write _) ?_
    refine Fields.get?_bind rfl (StoredNote.roundTrips.list.textMap.read_write h.notes) ?_
    rfl
  yields_read j := by
    refine .skip fun fs => .skip fun addresses => .skip fun rawScripts => ?_
    refine .skip fun changeAddresses => ?_
    refine .bind (Fields.yields_get? Coin.roundTrips.list.yields_read) fun coins hcoins => ?_
    refine .skip fun spendingKeys => ?_
    refine .bind (Fields.yields_get? StoredNote.roundTrips.list.textMap.yields_read)
      fun notes hnotes => ?_
    exact .pure ⟨getD_of_forall_mem hcoins nofun, getD_of_forall_mem hnotes nofun⟩

end WalletSnapshot

/-! ### The network -/

namespace RelaySnapshot

/-- The time is an integer of 64 bits, and the counts are of 32. -/
structure InRange (b : RelaySnapshot) : Prop where
  now : IsInt64 b.now
  requests : ∀ e ∈ b.requests.entries, IsInt32 e.2

theorem roundTrips : RoundTripsOn InRange toJson ofJson where
  read_write {b} h := by
    refine Fields.of_object_bind (by decide) rfl ?_
    refine Fields.get?_bind rfl (RoundTripsOn.int64.read_write h.now) ?_
    refine Fields.get?_bind rfl (RoundTripsOn.int32.hashMap.read_write h.requests) ?_
    rfl
  yields_read j := by
    refine .skip fun fs => ?_
    refine .bind (Fields.yields_get? RoundTripsOn.int64.yields_read) fun now hnow => ?_
    refine .bind (Fields.yields_get? RoundTripsOn.int32.hashMap.yields_read)
      fun requests hrequests => ?_
    refine .bind (Fields.yields_require hnow) fun now hnow => ?_
    exact .pure ⟨hnow, getD_of_forall_mem hrequests nofun⟩

end RelaySnapshot

end ShieldedLedger
