import ShieldedLedger.Proofs.SavedSnapshot
import ShieldedLedger.Saved.Report

/-!
# Saved bundles and reports come back

The law of writing and reading for what is saved as a whole. Most of it is put together from the law
of the parts. Notices need an argument of their own: the members that say what a notice is stand
beside its transaction in one object, and each of the two readers takes out its own.

## Main definitions

* `InRange` of `Bundle`, `Report` and the parts of a report

## Main results

* `Notice.ofMembers_toMembers`, `Notice.yields_ofMembers` — notices among other members
* `Bundle.roundTrips`, `Report.roundTrips` — what is saved comes back
-/

namespace ShieldedLedger

open Json

/-! ### Records -/

theorem RecordKind.roundTrips : RoundTrips toJson ofJson := .choice fun k => by cases k <;> rfl

namespace Record

/-- The place is an integer of 32 bits without a sign, and the amounts are of 64 with one. -/
structure InRange (r : Record) : Prop where
  index : r.index < UInt32.size
  debit : IsInt64 r.debit
  credit : IsInt64 r.credit
  fee : IsInt64 r.fee

theorem roundTrips : RoundTripsOn InRange toJson ofJson where
  read_write {r} h := by
    refine Fields.of_object_bind (by decide) rfl ?_
    refine Fields.get?_bind rfl (TxHash.roundTrips.read_write _) ?_
    refine Fields.get?_bind rfl ((RoundTripsOn.natBelow _).read_write h.index) ?_
    refine Fields.get?_bind rfl (RoundTrips.uint32.read_write _) ?_
    refine Fields.get?_bind rfl (RecordKind.roundTrips.read_write _) ?_
    refine Fields.get?_bind rfl (RoundTrips.string.read_write _) ?_
    refine Fields.get?_bind rfl (RoundTripsOn.int64.read_write h.debit) ?_
    refine Fields.get?_bind rfl (RoundTripsOn.int64.read_write h.credit) ?_
    refine Fields.get?_bind rfl (RoundTripsOn.int64.read_write h.fee) ?_
    refine Fields.get?_bind rfl (RoundTrips.bool.read_write _) ?_
    rfl
  yields_read j := by
    refine .skip fun fs => .skip fun hash => ?_
    refine .bind (Fields.yields_get? (RoundTripsOn.natBelow _).yields_read) fun index hindex => ?_
    refine .skip fun time => .skip fun kind => .skip fun address => ?_
    refine .bind (Fields.yields_get? RoundTripsOn.int64.yields_read) fun debit hdebit => ?_
    refine .bind (Fields.yields_get? RoundTripsOn.int64.yields_read) fun credit hcredit => ?_
    refine .bind (Fields.yields_get? RoundTripsOn.int64.yields_read) fun fee hfee => ?_
    refine .skip fun watchOnly => .skip fun hash => ?_
    refine .bind (Fields.yields_require hindex) fun index hindex => ?_
    refine .skip fun time => .skip fun kind => .skip fun address => ?_
    refine .bind (Fields.yields_require hdebit) fun debit hdebit => ?_
    refine .bind (Fields.yields_require hcredit) fun credit hcredit => ?_
    exact .skip fun watchOnly =>
      .pure ⟨hindex, hdebit, hcredit, getD_of_forall_mem hfee (by decide)⟩

end Record

/-! ### Statuses -/

theorem TxState.roundTrips : RoundTrips toJson ofJson := .choice fun s => by cases s <;> rfl

namespace SortKey

/-- The height is an integer of 32 bits, and so is the place, without a sign. -/
structure InRange (k : SortKey) : Prop where
  height : IsInt32 k.height
  index : k.index < UInt32.size

theorem roundTrips : RoundTripsOn InRange toJson ofJson where
  read_write {k} h := by
    refine Fields.of_object_bind (by decide) rfl ?_
    refine Fields.get?_bind rfl (RoundTripsOn.int32.read_write h.height) ?_
    refine Fields.get?_bind rfl (RoundTrips.bool.read_write _) ?_
    refine Fields.get?_bind rfl (RoundTrips.uint32.read_write _) ?_
    refine Fields.get?_bind rfl ((RoundTripsOn.natBelow _).read_write h.index) ?_
    rfl
  yields_read j := by
    refine .skip fun fs => ?_
    refine .bind (Fields.yields_get? RoundTripsOn.int32.yields_read) fun height hheight => ?_
    refine .skip fun coinbase => .skip fun timeReceived => ?_
    refine .bind (Fields.yields_get? (RoundTripsOn.natBelow _).yields_read) fun index hindex => ?_
    refine .bind (Fields.yields_require hheight) fun height hheight => ?_
    refine .skip fun coinbase => .skip fun timeReceived => ?_
    exact .bind (Fields.yields_require hindex) fun index hindex => .pure ⟨hheight, hindex⟩

end SortKey

namespace Status

/-- The key is in range, what is open is an integer of 64 bits, and the others are of 32. -/
structure InRange (s : Status) : Prop where
  sortKey : s.sortKey.InRange
  depth : IsInt32 s.depth
  maturesIn : IsInt32 s.maturesIn
  openFor : IsInt64 s.openFor
  tip : IsInt32 s.tip

theorem roundTrips : RoundTripsOn InRange toJson ofJson where
  read_write {s} h := by
    refine Fields.of_object_bind (by decide) rfl ?_
    refine Fields.get?_bind rfl (TxState.roundTrips.read_write _) ?_
    refine Fields.get?_bind rfl (SortKey.roundTrips.read_write h.sortKey) ?_
    refine Fields.get?_bind rfl (RoundTripsOn.int32.read_write h.depth) ?_
    refine Fields.get?_bind rfl (RoundTripsOn.int32.read_write h.maturesIn) ?_
    refine Fields.get?_bind rfl (RoundTripsOn.int64.read_write h.openFor) ?_
    refine Fields.get?_bind rfl (RoundTrips.bool.read_write _) ?_
    refine Fields.get?_bind rfl (RoundTripsOn.int32.read_write h.tip) ?_
    rfl
  yields_read j := by
    refine .skip fun fs => .skip fun state => ?_
    refine .bind (Fields.yields_get? SortKey.roundTrips.yields_read) fun sortKey hsortKey => ?_
    refine .bind (Fields.yields_get? RoundTripsOn.int32.yields_read) fun depth hdepth => ?_
    refine .bind (Fields.yields_get? RoundTripsOn.int32.yields_read) fun blocks hblocks => ?_
    refine .bind (Fields.yields_get? RoundTripsOn.int64.yields_read) fun openFor hopenFor => ?_
    refine .skip fun countsForBalance => ?_
    refine .bind (Fields.yields_get? RoundTripsOn.int32.yields_read) fun tip htip => ?_
    refine .skip fun state => ?_
    refine .bind (Fields.yields_require hsortKey) fun sortKey hsortKey => ?_
    refine .bind (Fields.yields_require hdepth) fun depth hdepth => ?_
    refine .bind (Fields.yields_require hblocks) fun blocks hblocks => ?_
    refine .bind (Fields.yields_require hopenFor) fun openFor hopenFor => ?_
    refine .skip fun countsForBalance => ?_
    refine .bind (Fields.yields_require htip) fun tip htip => ?_
    exact .pure ⟨hsortKey, hdepth, hblocks, hopenFor, htip⟩

end Status

namespace ReportEntry

/-- The record and its status are in range. -/
structure InRange (e : ReportEntry) : Prop where
  record : e.record.InRange
  status : e.status.InRange

theorem roundTrips : RoundTripsOn InRange toJson ofJson where
  read_write {e} h := by
    refine Fields.of_object_bind (by decide) rfl ?_
    refine Fields.get?_bind rfl (Record.roundTrips.read_write h.record) ?_
    refine Fields.get?_bind rfl (Status.roundTrips.read_write h.status) ?_
    rfl
  yields_read j := by
    refine .skip fun fs => ?_
    refine .bind (Fields.yields_get? Record.roundTrips.yields_read) fun record hrecord => ?_
    refine .bind (Fields.yields_get? Status.roundTrips.yields_read) fun status hstatus => ?_
    refine .bind (Fields.yields_require hrecord) fun record hrecord => ?_
    exact .bind (Fields.yields_require hstatus) fun status hstatus => .pure ⟨hrecord, hstatus⟩

end ReportEntry

/-! ### Notices -/

namespace Notice

/-- A net is an integer of 64 bits, and a count one without a sign. -/
inductive InRange : Notice → Prop where
  | degradedToMixed {net : Int} (h : IsInt64 net) : InRange (.degradedToMixed net)
  | severalNotes {count : Nat} (h : count < UInt64.size) : InRange (.severalNotes count)
  | notRelevant : InRange .notRelevant

theorem nodup_toMembers (n : Notice) : (n.toMembers.map Prod.fst).Nodup := by
  cases n <;> simp [toMembers]

/-- A notice is read from its members, however its kind is read, if it is read from its name. -/
theorem ofMembers_toMembers {kind : Reader Kind}
    (hkind : ∀ k, kind (.string (Kind.name k)) = .ok k) {n : Notice} (h : n.InRange) :
    ofMembers kind n.toMembers = .ok n := by
  refine Fields.of_members_bind n.nodup_toMembers ?_
  cases h with
  | degradedToMixed h =>
    refine Fields.get?_bind rfl (hkind .degradedToMixed) (Fields.require_bind ?_)
    refine Fields.of_object_bind (by decide) rfl ?_
    refine Fields.get?_bind rfl (RoundTripsOn.int64.read_write h) ?_
    rfl
  | severalNotes h =>
    refine Fields.get?_bind rfl (hkind .severalNotes) (Fields.require_bind ?_)
    refine Fields.of_object_bind (by decide) rfl ?_
    refine Fields.get?_bind rfl ((RoundTripsOn.natBelow _).read_write h) ?_
    rfl
  | notRelevant =>
    refine Fields.get?_bind rfl (hkind .notRelevant) (Fields.require_bind ?_)
    rfl

theorem yields_ofFields (k : Kind) (j : Json) : Yields (ofFields k j) InRange := by
  cases k with
  | degradedToMixed =>
    refine .skip fun fs => ?_
    refine .bind (Fields.yields_get? RoundTripsOn.int64.yields_read) fun net hnet => ?_
    exact .bind (Fields.yields_require hnet) fun net hnet => .pure (.degradedToMixed hnet)
  | severalNotes =>
    refine .skip fun fs => ?_
    refine .bind (Fields.yields_get? (RoundTripsOn.natBelow _).yields_read) fun count hcount => ?_
    exact .bind (Fields.yields_require hcount) fun count hcount => .pure (.severalNotes hcount)
  | notRelevant =>
    rw [ofFields.eq_def]
    dsimp only
    split
    · exact .error _
    · exact .pure .notRelevant

theorem yields_ofMembers (kind : Reader Kind) (members : List (String × Json)) :
    Yields (ofMembers kind members) InRange :=
  .skip fun _ => .skip fun _ => .skip fun k => yields_ofFields k _

end Notice

theorem Notice.Kind.ofJsonOrPlace_name (k : Kind) : ofJsonOrPlace (.string k.name) = .ok k := by
  cases k <;> rfl

namespace TxNotice

/-- What says what a notice is does not name its transaction. -/
theorem tx_notMem_toMembers (n : Notice) : "tx" ∉ n.toMembers.map Prod.fst := by
  cases n <;> simp [Notice.toMembers]

theorem filter_toMembers (j : Json) (n : Notice) :
    (("tx", j) :: n.toMembers).filter (·.1 != "tx") = n.toMembers := by
  cases n <;> rfl

theorem membersReadable_toMembers (n : Notice) : membersReadable n.toMembers := by
  cases n <;> rfl

theorem roundTrips : RoundTripsOn (·.notice.InRange) toJson ofJson where
  read_write {n} h := by
    refine Fields.of_members_bind
      (List.nodup_cons.mpr ⟨tx_notMem_toMembers n.notice, n.notice.nodup_toMembers⟩) ?_
    refine Fields.get?_bind rfl (TxHash.roundTrips.read_write n.tx) ?_
    dsimp only
    rw [filter_toMembers, membersReadable_toMembers, Bool.not_true, if_neg Bool.false_ne_true]
    refine Fields.require_bind ?_
    rw [bind_of_eq_ok (Notice.ofMembers_toMembers Notice.Kind.ofJsonOrPlace_name h)]
    rfl
  yields_read j := by
    cases j with
    | object members =>
      refine .skip fun fs => .skip fun tx => ?_
      dsimp only
      split
      · exact .error _
      · exact .skip fun tx => .bind (Notice.yields_ofMembers _ _) fun notice hnotice =>
          .pure hnotice
    | _ => exact .error _

end TxNotice

/-! ### Bundles and reports -/

namespace Bundle

/-- All numbers of a bundle are in range. -/
structure InRange (b : Bundle) : Prop where
  params : ∀ p ∈ b.params?, p.InRange
  chain : b.chain.InRange
  wallet : b.wallet.InRange
  relay : b.relay.InRange
  transactions : ∀ tx ∈ b.transactions, tx.InRange

theorem roundTrips : RoundTripsOn InRange toJson ofJson where
  read_write {b} h := by
    refine Fields.of_object_bind (by decide) rfl ?_
    refine Fields.get?_bind rfl ((Params.roundTrips.nullable nofun).read_write h.params) ?_
    refine Fields.get?_bind rfl (ChainSnapshot.roundTrips.read_write h.chain) ?_
    refine Fields.get?_bind rfl (WalletSnapshot.roundTrips.read_write h.wallet) ?_
    refine Fields.get?_bind rfl (RelaySnapshot.roundTrips.read_write h.relay) ?_
    refine Fields.get?_bind rfl (Transaction.roundTrips.list.read_write h.transactions) ?_
    rfl
  yields_read j := by
    refine .skip fun fs => ?_
    refine .bind (Fields.yields_get? (Params.roundTrips.nullable nofun).yields_read)
      fun params hparams => ?_
    refine .bind (Fields.yields_get? ChainSnapshot.roundTrips.yields_read) fun chain hchain => ?_
    refine .bind (Fields.yields_get? WalletSnapshot.roundTrips.yields_read)
      fun wallet hwallet => ?_
    refine .bind (Fields.yields_get? RelaySnapshot.roundTrips.yields_read) fun relay hrelay => ?_
    refine .bind (Fields.yields_get? Transaction.roundTrips.list.yields_read)
      fun transactions htransactions => ?_
    refine .bind (Fields.yields_require hchain) fun chain hchain => .pure ?_
    exact ⟨getD_of_forall_mem hparams nofun, hchain, getD_of_forall_mem hwallet ⟨nofun, nofun⟩,
      getD_of_forall_mem hrelay ⟨by decide, nofun⟩, getD_of_forall_mem htransactions nofun⟩

end Bundle

namespace Report

/-- All numbers of a report are in range. -/
structure InRange (r : Report) : Prop where
  entries : ∀ e ∈ r.entries, e.InRange
  notices : ∀ n ∈ r.notices, n.notice.InRange

theorem roundTrips : RoundTripsOn InRange toJson ofJson where
  read_write {r} h := by
    refine Fields.of_object_bind (by decide) rfl ?_
    refine Fields.get?_bind rfl (ReportEntry.roundTrips.list.read_write h.entries) ?_
    refine Fields.get?_bind rfl (TxNotice.roundTrips.list.read_write h.notices) ?_
    rfl
  yields_read j := by
    refine .skip fun fs => ?_
    refine .bind (Fields.yields_get? ReportEntry.roundTrips.list.yields_read)
      fun entries hentries => ?_
    refine .bind (Fields.yields_get? TxNotice.roundTrips.list.yields_read)
      fun notices hnotices => ?_
    refine .bind (Fields.yields_require hentries) fun entries hentries => ?_
    exact .bind (Fields.yields_require hnotices) fun notices hnotices => .pure ⟨hentries, hnotices⟩

end Report

end ShieldedLedger
