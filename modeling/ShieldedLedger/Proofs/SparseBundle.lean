import ShieldedLedger.Proofs.SavedText
import ShieldedLedger.Proofs.SparseRecord

/-!
# Sparse bundles read like full ones

A bundle is written with all its fields. What other programs save, or people write by hand, may
leave out most of them. This file gives the edits of each type that a bundle is made of, as a table
of its fields with the defaults, and shows that a reader takes every edit of a bundle for the
bundle, at all depths at once.

## Defaults

The tables give each default as it is written, and not by the type of the field, since the two do
not always agree. An entry of the chain that does not say whether it is in the best chain is in it,
while an entry of a transaction that nothing is known of is not. And the defaults of parameters are
those of the main network also for the parameters of another one, so a field can be left out there
only if it does not differ from the main network. What is left out in spite of that is read as if it
did not.

## Main definitions

* `edit` of `OutPoint`, `TxInput`, `Script`, `TxOutput`, `PoolTransfer`, `NotePosition`,
  `Transaction`, `Params`, `ChainEntry`, `ChainSnapshot`, `Coin`, `StoredNote`, `WalletSnapshot`,
  `RelaySnapshot` and `Bundle`
* `Params.restored` — what parameters are read as when some fields are left out

## Main results

* `readsEdited` of the same types
* `ChainEntry.ofJson_without_inBestChain`, `Params.ofJson_without` — fields that are left out
  whatever they hold
* `Bundle.ofJson_of_edit` — a sparse bundle reads the same as a full one
-/

namespace ShieldedLedger

open Json

/-! ### Transactions -/

/-- The edits of a place: none of its fields may be left out. -/
def OutPoint.edit : Edit := .record [.required "txid" .same, .required "index" .same]

theorem OutPoint.readsEdited : ReadsEdited (fun _ => True) edit toJson ofJson where
  toRoundTripsOn := roundTrips
  read_edit {p j} _ hedit := by
    refine Edit.record_bind hedit rfl (by decide) fun members hall => ?_
    obtain ⟨htxid, hindex, -⟩ := hall
    refine (ReadsEdited.same TxHash.roundTrips).required trivial htxid ?_
    refine (ReadsEdited.same RoundTrips.uint32).required trivial hindex ?_
    rfl

/-- The edits of an input: the place that it spends may be edited, but not left out. -/
def TxInput.edit : Edit := .record [.required "prevout" OutPoint.edit]

theorem TxInput.readsEdited : ReadsEdited (fun _ => True) edit toJson ofJson where
  toRoundTripsOn := roundTrips
  read_edit {i j} _ hedit := by
    refine Edit.record_bind hedit rfl (by decide) fun members hall => ?_
    obtain ⟨hprevout, -⟩ := hall
    refine OutPoint.readsEdited.required trivial hprevout ?_
    rfl

namespace Script

/-- Only the order of the members of a script may be changed. -/
def edit : Edit := .reordered

theorem exists_object_of_reordered {j j' : Json} (h : Edit.reordered j j') :
    ∃ members, j' = .object members := by
  cases h
  exact ⟨_, rfl⟩

/-- A script is edited like a record, though nothing may be added to it. -/
theorem record_of_reordered {kind content j : Json}
    (h : Edit.reordered (.object [("type", kind), ("data", content)]) j) :
    Edit.record [.required "type" .same, .required "data" .same]
      (.object [("type", kind), ("data", content)]) j := by
  obtain ⟨hperm⟩ := h
  refine .mk (.keep rfl (.keep rfl .nil)) (fun m hm => absurd hm List.not_mem_nil) ?_
  rwa [List.append_nil]

theorem readsEdited : ReadsEdited (fun _ => True) edit toJson ofJson where
  toRoundTripsOn := roundTrips
  read_edit {s j} _ hedit := by
    obtain ⟨ms, rfl⟩ := exists_object_of_reordered hedit
    cases s with
    | address destination =>
      refine Edit.record_bind (record_of_reordered hedit) rfl (by decide) fun members hall => ?_
      obtain ⟨htype, hdata, -⟩ := hall
      refine Fields.get?_bind htype.lookup_eq (Kind.alternative_name .address)
        (Fields.require_bind ?_)
      refine Fields.get?_bind hdata.lookup_eq
        (bind_of_eq_ok (RoundTrips.string.read_write destination)) ?_
      rfl
    | raw bytes =>
      refine Edit.record_bind (record_of_reordered hedit) rfl (by decide) fun members hall => ?_
      obtain ⟨htype, hdata, -⟩ := hall
      refine Fields.get?_bind htype.lookup_eq (Kind.alternative_name .raw) (Fields.require_bind ?_)
      refine Fields.get?_bind hdata.lookup_eq (bind_of_eq_ok (RoundTrips.bytes.read_write bytes)) ?_
      rfl

end Script

namespace TxOutput

/-- The edits of an output: neither its value nor its script may be left out. -/
def edit : Edit := .record [.required "value" .same, .required "script" Script.edit]

theorem readsEdited : ReadsEdited InRange edit toJson ofJson where
  toRoundTripsOn := roundTrips
  read_edit {out j} h hedit := by
    refine Edit.record_bind hedit rfl (by decide) fun members hall => ?_
    obtain ⟨hvalue, hscript, -⟩ := hall
    refine (ReadsEdited.same RoundTripsOn.int64).required h.value hvalue ?_
    refine Script.readsEdited.required trivial hscript ?_
    rfl

end TxOutput

namespace PoolTransfer

/-- The edits of a shielded transfer: its ciphertexts may be left out. -/
def edit : Edit :=
  .record [.required "value_in" .same, .required "value_out" .same,
    .optional "ciphertexts" .same (.array [])]

theorem readsEdited : ReadsEdited InRange edit toJson ofJson where
  toRoundTripsOn := roundTrips
  read_edit {t j} h hedit := by
    refine Edit.record_bind hedit rfl (by decide) fun members hall => ?_
    obtain ⟨hentering, hleaving, hciphertexts, -⟩ := hall
    refine (ReadsEdited.same RoundTripsOn.int64).required h.entering hentering ?_
    refine (ReadsEdited.same RoundTripsOn.int64).required h.leaving hleaving ?_
    refine (ReadsEdited.same RoundTrips.bytes.list).optional [] trivial trivial hciphertexts
      fun ciphertexts hciphertexts => ?_
    rw [hciphertexts]
    rfl

end PoolTransfer

/-- The edits of the place of a note: none of its fields may be left out. -/
def NotePosition.edit : Edit := .record [.required "descriptor" .same, .required "output" .same]

theorem NotePosition.readsEdited : ReadsEdited (fun _ => True) edit toJson ofJson where
  toRoundTripsOn := roundTrips
  read_edit {n j} _ hedit := by
    refine Edit.record_bind hedit rfl (by decide) fun members hall => ?_
    obtain ⟨htransfer, houtput, -⟩ := hall
    refine (ReadsEdited.same RoundTrips.uint32).required trivial htransfer ?_
    refine (ReadsEdited.same RoundTrips.uint8).required trivial houtput ?_
    rfl

namespace Transaction

/-- The edits of a transaction: all but its hash and its time may be left out. -/
def edit : Edit :=
  .record [
    .required "hash" .same,
    .optional "inputs" (.elements TxInput.edit) (.array []),
    .optional "outputs" (.elements TxOutput.edit) (.array []),
    .optional "shielded" (.elements PoolTransfer.edit) (.array []),
    .optional "note_data" (.elements NotePosition.edit) (.array []),
    .optional "is_coinbase" .same (.bool false),
    .optional "lock_time" .same (.int 0),
    .required "time_received" .same,
    .optional "metadata" .same (.object [])]

theorem readsEdited : ReadsEdited InRange edit toJson ofJson where
  toRoundTripsOn := roundTrips
  read_edit {tx j} h hedit := by
    refine Edit.record_bind hedit rfl (by decide) fun members hall => ?_
    obtain ⟨hhash, hinputs, houtputs, hshielded, hnoteData, hisCoinbase, hlockTime, htimeReceived,
      hmetadata, -⟩ := hall
    refine (ReadsEdited.same TxHash.roundTrips).required trivial hhash ?_
    refine TxInput.readsEdited.list.optional [] (fun _ _ => trivial) nofun hinputs
      fun inputs hinputs => ?_
    refine TxOutput.readsEdited.list.optional [] h.outputs nofun houtputs fun outputs houtputs => ?_
    refine PoolTransfer.readsEdited.list.optional [] h.shielded nofun hshielded
      fun shielded hshielded => ?_
    refine NotePosition.readsEdited.list.optional [] (fun _ _ => trivial) nofun hnoteData
      fun noteData hnoteData => ?_
    refine (ReadsEdited.same RoundTrips.bool).optional false trivial trivial hisCoinbase
      fun isCoinbase hisCoinbase => ?_
    refine (ReadsEdited.same RoundTrips.uint32).optional 0 trivial trivial hlockTime
      fun lockTime hlockTime => ?_
    refine (ReadsEdited.same RoundTrips.uint32).required trivial htimeReceived ?_
    refine (ReadsEdited.same RoundTrips.string.textMap).optional ∅ trivial trivial hmetadata
      fun metadata hmetadata => ?_
    rw [hinputs, houtputs, hshielded, hnoteData, hisCoinbase, hlockTime, hmetadata]
    rfl

end Transaction

/-! ### Parameters and snapshots -/

namespace Params

/-- The edits of parameters: every field may be left out, with the value of the main network. -/
def edit : Edit :=
  .record [
    .optional "network" .same (.string "main"),
    .optional "lock_time_threshold" .same (.int 500000000),
    .optional "coinbase_maturity" .same (.int 100),
    .optional "recommended_confirmations" .same (.int 6),
    .optional "stale_window_secs" .same (.int 120),
    .optional "per_operation_fee" .same (.int 10000)]

theorem readsEdited : ReadsEdited InRange edit toJson ofJson where
  toRoundTripsOn := roundTrips
  read_edit {p j} h hedit := by
    refine Edit.record_bind hedit rfl (by decide) fun members hall => ?_
    obtain ⟨hnetwork, hthreshold, hmaturity, hconfirmations, hwindow, hfee, -⟩ := hall
    refine (ReadsEdited.same Network.roundTrips).optional standard.network trivial trivial hnetwork
      fun network hnetwork => ?_
    refine (ReadsEdited.same RoundTrips.uint32).optional standard.lockTimeThreshold trivial trivial
      hthreshold fun threshold hthreshold => ?_
    refine (ReadsEdited.same RoundTripsOn.int32).optional standard.coinbaseMaturity
      h.coinbaseMaturity inRange_standard.coinbaseMaturity hmaturity fun maturity hmaturity => ?_
    refine (ReadsEdited.same RoundTripsOn.int32).optional standard.recommendedConfirmations
      h.recommendedConfirmations inRange_standard.recommendedConfirmations hconfirmations
      fun confirmations hconfirmations => ?_
    refine (ReadsEdited.same RoundTripsOn.int64).optional standard.staleWindow h.staleWindow
      inRange_standard.staleWindow hwindow fun window hwindow => ?_
    refine (ReadsEdited.same RoundTripsOn.int64).optional standard.operationFee h.operationFee
      inRange_standard.operationFee hfee fun fee hfee => ?_
    rw [hnetwork, hthreshold, hmaturity, hconfirmations, hwindow, hfee]
    rfl

/-- What parameters are read as when some fields are left out, whatever they hold. -/
def restored (p : Params) (drop : String → Bool) : Params where
  network := if drop "network" then standard.network else p.network
  lockTimeThreshold :=
    if drop "lock_time_threshold" then standard.lockTimeThreshold else p.lockTimeThreshold
  coinbaseMaturity :=
    if drop "coinbase_maturity" then standard.coinbaseMaturity else p.coinbaseMaturity
  recommendedConfirmations :=
    if drop "recommended_confirmations" then standard.recommendedConfirmations
    else p.recommendedConfirmations
  staleWindow := if drop "stale_window_secs" then standard.staleWindow else p.staleWindow
  operationFee := if drop "per_operation_fee" then standard.operationFee else p.operationFee

theorem inRange_restored {p : Params} (h : p.InRange) (drop : String → Bool) :
    (p.restored drop).InRange where
  coinbaseMaturity :=
    iteInduction (fun _ => inRange_standard.coinbaseMaturity) fun _ => h.coinbaseMaturity
  recommendedConfirmations :=
    iteInduction (fun _ => inRange_standard.recommendedConfirmations)
      fun _ => h.recommendedConfirmations
  staleWindow := iteInduction (fun _ => inRange_standard.staleWindow) fun _ => h.staleWindow
  operationFee := iteInduction (fun _ => inRange_standard.operationFee) fun _ => h.operationFee

/-- **What is left out of parameters is that of the main network, whatever the network is.** The
argument is that the members that are left are also left of what is read. -/
theorem ofJson_without {p : Params} (h : p.InRange) (drop : String → Bool) :
    ofJson (p.toJson.without drop) = .ok (p.restored drop) := by
  refine readsEdited.read_edit (inRange_restored h drop)
    (.mk ?_ (fun m hm => absurd hm List.not_mem_nil) (.of_eq (List.append_nil _).symm))
  refine .filter_cons (apply_ite Network.toJson _ _ _) ?_
  refine .filter_cons (apply_ite (fun w : UInt32 => Json.int w.toNat) _ _ _) ?_
  refine .filter_cons (apply_ite Json.int _ _ _) ?_
  refine .filter_cons (apply_ite Json.int _ _ _) ?_
  refine .filter_cons (apply_ite Json.int _ _ _) ?_
  refine .filter_cons (apply_ite Json.int _ _ _) ?_
  exact .nil

end Params

namespace ChainEntry

/-- The edits of an entry: every field may be left out, and one that is left out says that the block
is in the best chain. -/
def edit : Edit :=
  .record [
    .optional "block_height" .same .null,
    .optional "in_best_chain" .same (.bool true),
    .optional "conflict_depth" .same .null,
    .optional "blocks_to_maturity" .same .null]

theorem readsEdited : ReadsEdited InRange edit toJson ofJson where
  toRoundTripsOn := roundTrips
  read_edit {e j} h hedit := by
    refine Edit.record_bind hedit rfl (by decide) fun members hall => ?_
    obtain ⟨hblock, hbest, hconflict, hblocks, -⟩ := hall
    refine (ReadsEdited.same RoundTripsOn.optionalInt32).optional none h.blockHeight nofun hblock
      fun block hblock => ?_
    refine (ReadsEdited.same RoundTrips.bool).optional true trivial trivial hbest
      fun best hbest => ?_
    refine (ReadsEdited.same RoundTripsOn.optionalInt32).optional none h.conflictDepth nofun
      hconflict fun conflict hconflict => ?_
    refine (ReadsEdited.same RoundTripsOn.optionalInt32).optional none h.blocksToMaturity nofun
      hblocks fun blocks hblocks => ?_
    rw [hblock, hbest, hconflict, hblocks]
    rfl

/-- **An entry that does not say otherwise is in the best chain**, unlike the entry of a transaction
that is not known. -/
theorem ofJson_without_inBestChain {e : ChainEntry} (h : e.InRange) :
    ofJson (e.toJson.without (· == "in_best_chain")) = .ok { e with inBestChain := true } := by
  refine readsEdited.read_edit ⟨h.blockHeight, h.conflictDepth, h.blocksToMaturity⟩
    (.mk ?_ (fun m hm => absurd hm List.not_mem_nil) (.of_eq (List.append_nil _).symm))
  exact .keep rfl (.drop rfl (.keep rfl (.keep rfl .nil)))

end ChainEntry

namespace ChainSnapshot

/-- The edits of a chain: all but the height of its tip may be left out. -/
def edit : Edit :=
  .record [
    .required "height" .same,
    .optional "median_time_past" .same (.int 0),
    .optional "transactions" (.values ChainEntry.edit) (.object [])]

theorem readsEdited : ReadsEdited InRange edit toJson ofJson where
  toRoundTripsOn := roundTrips
  read_edit {c j} h hedit := by
    refine Edit.record_bind hedit rfl (by decide) fun members hall => ?_
    obtain ⟨hheight, htime, htransactions, -⟩ := hall
    refine (ReadsEdited.same RoundTripsOn.int32).required h.height hheight ?_
    refine (ReadsEdited.same RoundTrips.uint32).optional 0 trivial trivial htime
      fun time htime => ?_
    refine (ChainEntry.readsEdited.map TxHash.ofKey_toHex).optional ∅ h.transactions nofun
      htransactions fun transactions htransactions => ?_
    rw [htime, htransactions]
    rfl

end ChainSnapshot

namespace Coin

/-- The edits of a known output: none of its fields may be left out. -/
def edit : Edit :=
  .record [.required "outpoint" OutPoint.edit, .required "output" TxOutput.edit]

theorem readsEdited : ReadsEdited (·.output.InRange) edit toJson ofJson where
  toRoundTripsOn := roundTrips
  read_edit {c j} h hedit := by
    refine Edit.record_bind hedit rfl (by decide) fun members hall => ?_
    obtain ⟨houtpoint, houtput, -⟩ := hall
    refine OutPoint.readsEdited.required trivial houtpoint ?_
    refine TxOutput.readsEdited.required h houtput ?_
    rfl

end Coin

namespace StoredNote

/-- The edits of a stored note: its depth may be left out. -/
def edit : Edit :=
  .record [.required "txid" .same, .required "amount" .same, .optional "depth" .same (.int 0)]

theorem readsEdited : ReadsEdited InRange edit toJson ofJson where
  toRoundTripsOn := roundTrips
  read_edit {n j} h hedit := by
    refine Edit.record_bind hedit rfl (by decide) fun members hall => ?_
    obtain ⟨htxid, hamount, hdepth, -⟩ := hall
    refine (ReadsEdited.same TxHash.roundTrips).required trivial htxid ?_
    refine (ReadsEdited.same RoundTripsOn.int64).required h.amount hamount ?_
    refine (ReadsEdited.same RoundTripsOn.int32).optional 0 h.depth (by decide) hdepth
      fun depth hdepth => ?_
    rw [hdepth]
    rfl

end StoredNote

namespace WalletSnapshot

/-- The edits of a wallet: every field may be left out. -/
def edit : Edit :=
  .record [
    .optional "addresses" .same (.object []),
    .optional "raw_scripts" .same (.object []),
    .optional "change_addresses" .same (.array []),
    .optional "known_outputs" (.elements Coin.edit) (.array []),
    .optional "spending_keys" .same (.array []),
    .optional "notes" (.values (.elements StoredNote.edit)) (.object [])]

theorem readsEdited : ReadsEdited InRange edit toJson ofJson where
  toRoundTripsOn := roundTrips
  read_edit {w j} h hedit := by
    refine Edit.record_bind hedit rfl (by decide) fun members hall => ?_
    obtain ⟨haddresses, hscripts, hchange, hcoins, hkeys, hnotes, -⟩ := hall
    refine (ReadsEdited.same Ownership.roundTrips.textMap).optional ∅ trivial trivial haddresses
      fun addresses haddresses => ?_
    refine (ReadsEdited.same Ownership.roundTrips.textMap).optional ∅ trivial trivial hscripts
      fun scripts hscripts => ?_
    refine (ReadsEdited.same RoundTrips.textSet).optional ∅ trivial trivial hchange
      fun change hchange => ?_
    refine Coin.readsEdited.list.optional [] h.coins nofun hcoins fun coins hcoins => ?_
    refine (ReadsEdited.same RoundTrips.textSet).optional ∅ trivial trivial hkeys
      fun keys hkeys => ?_
    refine (StoredNote.readsEdited.list.map fun _ => rfl).optional ∅ h.notes nofun hnotes
      fun notes hnotes => ?_
    rw [haddresses, hscripts, hchange, hcoins, hkeys, hnotes]
    rfl

end WalletSnapshot

namespace RelaySnapshot

/-- The edits of a state of the network: all but its time may be left out. -/
def edit : Edit := .record [.required "now" .same, .optional "requests" .same (.object [])]

theorem readsEdited : ReadsEdited InRange edit toJson ofJson where
  toRoundTripsOn := roundTrips
  read_edit {b j} h hedit := by
    refine Edit.record_bind hedit rfl (by decide) fun members hall => ?_
    obtain ⟨hnow, hrequests, -⟩ := hall
    refine (ReadsEdited.same RoundTripsOn.int64).required h.now hnow ?_
    refine (ReadsEdited.same RoundTripsOn.int32.hashMap).optional ∅ h.requests nofun hrequests
      fun requests hrequests => ?_
    rw [hrequests]
    rfl

end RelaySnapshot

/-! ### Bundles -/

namespace Bundle

/-- The edits of a bundle: all but its chain may be left out. -/
def edit : Edit :=
  .record [
    .optional "params" (.nullable Params.edit) .null,
    .required "chain" ChainSnapshot.edit,
    .optional "wallet" WalletSnapshot.edit WalletSnapshot.empty.toJson,
    .optional "broadcast" RelaySnapshot.edit (RelaySnapshot.atTime 0).toJson,
    .optional "transactions" (.elements Transaction.edit) (.array [])]

theorem readsEdited : ReadsEdited InRange edit toJson ofJson where
  toRoundTripsOn := roundTrips
  read_edit {b j} h hedit := by
    refine Edit.record_bind hedit rfl (by decide) fun members hall => ?_
    obtain ⟨hparams, hchain, hwallet, hrelay, htransactions, -⟩ := hall
    refine (Params.readsEdited.nullable nofun Edit.ne_null_of_record).optional none h.params nofun
      hparams fun params hparams => ?_
    refine ChainSnapshot.readsEdited.required h.chain hchain ?_
    refine WalletSnapshot.readsEdited.optional .empty h.wallet ⟨nofun, nofun⟩ hwallet
      fun wallet hwallet => ?_
    refine RelaySnapshot.readsEdited.optional (.atTime 0) h.relay ⟨by decide, nofun⟩ hrelay
      fun relay hrelay => ?_
    refine Transaction.readsEdited.list.optional [] h.transactions nofun htransactions
      fun transactions htransactions => ?_
    rw [hparams, hwallet, hrelay, htransactions]
    rfl

/-- **A sparse bundle reads the same as a full one**, as a value or as a text. An entry that does
not say whether it is in the best chain is in it, and what is left out of parameters is that of the
main network, whatever they held. -/
theorem ofJson_of_edit (b : Bundle) (h : b.InRange) :
    (∀ j, edit b.toJson j → ofJson j = .ok b) ∧
    (∀ j text, edit b.toJson j → Json.parse? text = some j → ofJson.ofText text = .ok b) ∧
    (∀ e : ChainEntry, e.InRange → ChainEntry.ofJson (e.toJson.without (· == "in_best_chain")) =
      .ok { e with inBestChain := true }) ∧
    ∀ p : Params, p.InRange → ∀ drop, Params.ofJson (p.toJson.without drop) =
      .ok (p.restored drop) := by
  refine ⟨fun j => readsEdited.read_edit h, fun j text hedit htext => ?_,
    fun e => ChainEntry.ofJson_without_inBestChain, fun p hp drop => Params.ofJson_without hp drop⟩
  exact (Reader.ofText_eq htext).trans (readsEdited.read_edit h hedit)

/-- A bundle with parameters of its own network and one transaction that was mined. -/
def sampleMined : Bundle where
  params? := some (.forNetwork .regtest)
  chain := (ChainSnapshot.atHeight 5).mine ⟨List.replicate 32 41, rfl⟩ 3
  wallet := .empty
  relay := .atTime 0
  transactions := []

/-- What may be left of it. -/
def sampleSparse : Json :=
  .object [
    ("note", .unreadable),
    ("chain", .object [
      ("transactions", .object [
        (TxHash.toHex ⟨List.replicate 32 41, rfl⟩, .object [("block_height", .int 3)])]),
      ("height", .int 5)]),
    ("params", .object [("recommended_confirmations", .int 1), ("network", .string "regtest")])]

theorem inRange_sampleMined : sampleMined.InRange where
  params := by
    rintro _ ⟨⟩
    exact ⟨by decide, by decide, by decide, by decide⟩
  chain := by
    refine ⟨by decide, fun e he => ?_⟩
    obtain rfl := List.mem_singleton.mp he
    exact ⟨by decide, nofun, nofun⟩
  wallet := ⟨nofun, nofun⟩
  relay := ⟨by decide, nofun⟩
  transactions := nofun

theorem edit_sampleMined : edit sampleMined.toJson sampleSparse := by
  have hparams : Params.edit (Params.forNetwork .regtest).toJson
      (.object [("recommended_confirmations", .int 1), ("network", .string "regtest")]) :=
    .mk (.keep rfl (.drop rfl (.drop rfl (.keep rfl (.drop rfl (.drop rfl .nil))))))
      (fun m hm => absurd hm List.not_mem_nil) (.swap _ _ _)
  have hentry : ChainEntry.edit (ChainEntry.toJson ⟨some 3, true, none, none⟩)
      (.object [("block_height", .int 3)]) :=
    .mk (.keep rfl (.drop rfl (.drop rfl (.drop rfl .nil))))
      (fun m hm => absurd hm List.not_mem_nil) (.refl _)
  have hentries : Edit.values ChainEntry.edit
      (hashMapToJson ChainEntry.toJson sampleMined.chain.transactions)
      (.object [(TxHash.toHex ⟨List.replicate 32 41, rfl⟩, .object [("block_height", .int 3)])]) :=
    .mk (.cons (And.intro rfl hentry) .nil)
  have hchain : ChainSnapshot.edit sampleMined.chain.toJson
      (.object [
        ("transactions", .object [
          (TxHash.toHex ⟨List.replicate 32 41, rfl⟩, .object [("block_height", .int 3)])]),
        ("height", .int 5)]) :=
    .mk (.keep rfl (.drop rfl (.keep hentries .nil)))
      (fun m hm => absurd hm List.not_mem_nil) (.swap _ _ _)
  have hturn : ∀ a b c : String × Json, [a, b, c].Perm ([c, b] ++ [a]) := fun a b c =>
    List.reverse_perm [c, b, a]
  refine .mk (.keep (.value hparams) (.keep hchain (.drop rfl (.drop rfl (.drop rfl .nil)))))
    (fun m hm => ?_) (hturn _ _ _)
  obtain rfl := List.mem_singleton.mp hm
  decide

theorem ofJson_of_edit_sampleMined :
    sampleMined.InRange ∧ edit sampleMined.toJson sampleSparse ∧
      ofJson sampleSparse = .ok sampleMined ∧
      Params.ofJson ((Params.forNetwork .regtest).toJson.without fun _ => true) =
        .ok .standard := by
  have hread := ofJson_of_edit sampleMined inRange_sampleMined
  refine ⟨inRange_sampleMined, edit_sampleMined, hread.1 _ edit_sampleMined, ?_⟩
  exact hread.2.2.2 _ (inRange_sampleMined.params _ rfl) fun _ => true

end Bundle

end ShieldedLedger
