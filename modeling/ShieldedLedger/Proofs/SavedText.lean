import ShieldedLedger.Command.Render
import ShieldedLedger.Proofs.JsonText
import ShieldedLedger.Proofs.SavedReport

/-!
# Saved texts come back

What is saved is a text in the end, so the law of writing and reading is carried over to texts. For
this it is enough that what is written is plain: integers that are in range have less than 64 bits,
and containers are nested as deep as the types are, at most seven deep.

## Main definitions

* `Json.ComesBack` — a value is read from what is written for it, as a value and as a text

## Main results

* `plain_toJson` of every type that is saved
* `ofText_json` — a report is read from what is printed for it
* `comesBack_saved` — bundles and reports come back
-/

namespace ShieldedLedger

namespace Json

/-! ### Plain values -/

section Plain

variable {room : Nat}

theorem plain_nat {n : Nat} (h : n < UInt64.size) : Plain room (int n) :=
  plain_int h

@[simp]
theorem plain_uint32 (w : UInt32) : Plain room (int w.toNat) :=
  plain_nat (w.toNat_lt.trans (by decide))

@[simp]
theorem plain_uint8 (b : UInt8) : Plain room (int b.toNat) :=
  plain_nat (b.toNat_lt.trans (by decide))

theorem plain_int64 {z : Int} (h : IsInt64 z) : Plain room (int z) := by
  refine plain_int ?_
  rw [IsInt64] at h
  rw [UInt64.size]
  omega

theorem plain_int32 {z : Int} (h : IsInt32 z) : Plain room (int z) := by
  refine plain_int64 ?_
  rw [IsInt32] at h
  rw [IsInt64]
  omega

theorem plain_optionToJson {α : Type} {write : α → Json} {o : Option α}
    (h : ∀ a ∈ o, Plain room (write a)) : Plain room (optionToJson write o) := by
  cases o with
  | none => exact plain_null
  | some a => exact h a rfl

theorem plain_hashMapToJson {α : Type} {write : α → Json} {m : SortedMap TxHash α}
    (h : ∀ e ∈ m.entries, Plain room (write e.2)) : Plain (room + 1) (hashMapToJson write m) :=
  plain_object.mpr (List.forall_mem_map.mpr h)

theorem plain_textMapToJson {α : Type} {write : α → Json} {m : SortedMap String α}
    (h : ∀ e ∈ m.entries, Plain room (write e.2)) : Plain (room + 1) (textMapToJson write m) :=
  plain_object.mpr (List.forall_mem_map.mpr h)

theorem plain_list {α : Type} {write : α → Json} {l : List α}
    (h : ∀ a ∈ l, Plain room (write a)) : Plain (room + 1) (array (l.map write)) :=
  plain_array.mpr (List.forall_mem_map.mpr h)

@[simp]
theorem plain_textSetToJson (s : SortedSet String) : Plain (room + 1) (textSetToJson s) :=
  plain_list fun _ _ => plain_string _

@[simp]
theorem plain_bytesToJson (bytes : List UInt8) : Plain (room + 1) (bytesToJson bytes) :=
  plain_list fun _ _ => plain_uint8 _

end Plain

end Json

open Json

variable {room : Nat}

/-! ### Transactions -/

@[simp]
theorem TxHash.plain_toJson (h : TxHash) : Plain room h.toJson := plain_string _

@[simp]
theorem OutPoint.plain_toJson (p : OutPoint) : Plain (room + 1) p.toJson := by simp [toJson]

@[simp]
theorem TxInput.plain_toJson (i : TxInput) : Plain (room + 2) i.toJson := by simp [toJson]

@[simp]
theorem Script.plain_toJson (s : Script) : Plain (room + 2) s.toJson := by
  cases s <;> simp [toJson]

theorem TxOutput.plain_toJson {out : TxOutput} (h : out.InRange) :
    Plain (room + 3) out.toJson := by
  simp [toJson, plain_int64 h.value]

theorem PoolTransfer.plain_toJson {t : PoolTransfer} (h : t.InRange) :
    Plain (room + 3) t.toJson := by
  have hciphertexts : Plain (room + 2) (array (t.ciphertexts.map bytesToJson)) :=
    plain_list fun _ _ => plain_bytesToJson _
  simp [toJson, plain_int64 h.entering, plain_int64 h.leaving, hciphertexts]

@[simp]
theorem NotePosition.plain_toJson (n : NotePosition) : Plain (room + 1) n.toJson := by
  simp [toJson]

theorem Transaction.plain_toJson {tx : Transaction} (h : tx.InRange) :
    Plain (room + 5) tx.toJson := by
  have hinputs : Plain (room + 4) (array (tx.inputs.map TxInput.toJson)) :=
    plain_list fun _ _ => TxInput.plain_toJson _
  have houtputs : Plain (room + 4) (array (tx.outputs.map TxOutput.toJson)) :=
    plain_list fun out hout => TxOutput.plain_toJson (h.outputs out hout)
  have hshielded : Plain (room + 4) (array (tx.shielded.map PoolTransfer.toJson)) :=
    plain_list fun t ht => PoolTransfer.plain_toJson (h.shielded t ht)
  have hnoteData : Plain (room + 4) (array (tx.noteData.map NotePosition.toJson)) :=
    plain_list fun _ _ => NotePosition.plain_toJson _
  have hmetadata : Plain (room + 4) (textMapToJson string tx.metadata) :=
    plain_textMapToJson fun _ _ => plain_string _
  simp [toJson, hinputs, houtputs, hshielded, hnoteData, hmetadata]

/-! ### Snapshots -/

theorem Params.plain_toJson {p : Params} (h : p.InRange) : Plain (room + 1) p.toJson := by
  simp [toJson, toMembers, Network.toJson, plain_int32 h.coinbaseMaturity,
    plain_int32 h.recommendedConfirmations, plain_int64 h.staleWindow, plain_int64 h.operationFee]

theorem ChainEntry.plain_toJson {e : ChainEntry} (h : e.InRange) :
    Plain (room + 1) e.toJson := by
  have hint {o : Option Int} (ho : ∀ z ∈ o, IsInt32 z) : Plain room (optionToJson int o) :=
    plain_optionToJson fun z hz => plain_int32 (ho z hz)
  simp [toJson, hint h.blockHeight, hint h.conflictDepth, hint h.blocksToMaturity]

theorem ChainSnapshot.plain_toJson {c : ChainSnapshot} (h : c.InRange) :
    Plain (room + 3) c.toJson := by
  have htransactions : Plain (room + 2) (hashMapToJson ChainEntry.toJson c.transactions) :=
    plain_hashMapToJson fun e he => ChainEntry.plain_toJson (h.transactions e he)
  simp [toJson, plain_int32 h.height, htransactions]

theorem Coin.plain_toJson {c : Coin} (h : c.output.InRange) : Plain (room + 4) c.toJson := by
  simp [toJson, TxOutput.plain_toJson h]

theorem StoredNote.plain_toJson {n : StoredNote} (h : n.InRange) :
    Plain (room + 1) n.toJson := by
  simp [toJson, plain_int64 h.amount, plain_int32 h.depth]

theorem WalletSnapshot.plain_toJson {w : WalletSnapshot} (h : w.InRange) :
    Plain (room + 6) w.toJson := by
  have hownerships (m : SortedMap String Ownership) :
      Plain (room + 5) (textMapToJson Ownership.toJson m) :=
    plain_textMapToJson fun _ _ => plain_string _
  have hcoins : Plain (room + 5) (array (w.coins.map Coin.toJson)) :=
    plain_list fun c hc => Coin.plain_toJson (h.coins c hc)
  have hnotes : Plain (room + 5) (notesToJson w.notes) :=
    plain_textMapToJson fun e he =>
      plain_list fun n hn => StoredNote.plain_toJson (h.notes e he n hn)
  simp [toJson, hownerships, hcoins, hnotes]

theorem RelaySnapshot.plain_toJson {b : RelaySnapshot} (h : b.InRange) :
    Plain (room + 2) b.toJson := by
  have hrequests : Plain (room + 1) (hashMapToJson int b.requests) :=
    plain_hashMapToJson fun e he => plain_int32 (h.requests e he)
  simp [toJson, plain_int64 h.now, hrequests]

theorem Bundle.plain_toJson {b : Bundle} (h : b.InRange) : Plain (room + 7) b.toJson := by
  have hparams : Plain (room + 6) (optionToJson Params.toJson b.params?) :=
    plain_optionToJson fun p hp => Params.plain_toJson (h.params p hp)
  have htransactions : Plain (room + 6) (array (b.transactions.map Transaction.toJson)) :=
    plain_list fun tx htx => Transaction.plain_toJson (h.transactions tx htx)
  simp [toJson, hparams, ChainSnapshot.plain_toJson h.chain, WalletSnapshot.plain_toJson h.wallet,
    RelaySnapshot.plain_toJson h.relay, htransactions]

/-! ### Reports -/

theorem Record.plain_toJson {r : Record} (h : r.InRange) : Plain (room + 1) r.toJson := by
  simp [toJson, RecordKind.toJson, plain_nat (h.index.trans (by decide)), plain_int64 h.debit,
    plain_int64 h.credit, plain_int64 h.fee]

theorem SortKey.plain_toJson {k : SortKey} (h : k.InRange) : Plain (room + 1) k.toJson := by
  simp [toJson, plain_int32 h.height, plain_nat (h.index.trans (by decide))]

theorem Status.plain_toJson {s : Status} (h : s.InRange) : Plain (room + 2) s.toJson := by
  simp [toJson, TxState.toJson, SortKey.plain_toJson h.sortKey, plain_int32 h.depth,
    plain_int32 h.maturesIn, plain_int64 h.openFor, plain_int32 h.tip]

theorem ReportEntry.plain_toJson {e : ReportEntry} (h : e.InRange) :
    Plain (room + 3) e.toJson := by
  simp [toJson, Record.plain_toJson h.record, Status.plain_toJson h.status]

theorem TxNotice.plain_toJson {n : TxNotice} (h : n.notice.InRange) :
    Plain (room + 1) n.toJson := by
  obtain ⟨tx, notice⟩ := n
  cases h with
  | degradedToMixed h => simp [toJson, Notice.toMembers, plain_int64 h]
  | severalNotes h => simp [toJson, Notice.toMembers, plain_nat h]
  | notRelevant => simp [toJson, Notice.toMembers]

theorem Report.plain_toJson {r : Report} (h : r.InRange) : Plain (room + 5) r.toJson := by
  have hentries : Plain (room + 4) (array (r.entries.map ReportEntry.toJson)) :=
    plain_list fun e he => ReportEntry.plain_toJson (h.entries e he)
  have hnotices : Plain (room + 4) (array (r.notices.map TxNotice.toJson)) :=
    plain_list fun n hn => TxNotice.plain_toJson (h.notices n hn)
  simp [toJson, hentries, hnotices]

/-! ### Texts -/

section Texts

variable {α : Type} {write : α → Json} {read : Reader α} {inRange : α → Prop} {a : α}

/-- A value is read back from what is written for it, as a value and as either text. -/
structure Json.ComesBack (write : α → Json) (read : Reader α) (a : α) : Prop where
  value : read (write a) = .ok a
  compact : read.ofText (write a).compact = .ok a
  pretty : read.ofText (write a).pretty = .ok a

/-- A reader of texts only depends on the value of the text. -/
theorem Json.Reader.ofText_eq {text : String} {j : Json} (h : parse? text = some j) :
    read.ofText text = read j := by
  rw [Reader.ofText, h]

/-- A writer and a reader of values that fit also fit as writer and reader of texts, if what is
written is plain. -/
theorem Json.RoundTripsOn.comesBack (h : RoundTripsOn inRange write read)
    (hplain : Plain maxNesting (write a)) (ha : inRange a) : ComesBack write read a where
  value := h.read_write ha
  compact := (Reader.ofText_eq (parse?_compact hplain)).trans (h.read_write ha)
  pretty := (Reader.ofText_eq (parse?_pretty hplain)).trans (h.read_write ha)

/-- What is read from a text is in range. -/
theorem Json.RoundTripsOn.inRange_of_ofText (h : RoundTripsOn inRange write read) {text : String}
    (hread : read.ofText text = .ok a) : inRange a := by
  rw [Reader.ofText] at hread
  split at hread
  · next j _ => exact h.yields_read j a hread
  · cases hread

end Texts

theorem Bundle.comesBack {b : Bundle} (h : b.InRange) : ComesBack toJson ofJson b :=
  roundTrips.comesBack (plain_toJson h) h

theorem Report.comesBack {r : Report} (h : r.InRange) : ComesBack toJson ofJson r :=
  roundTrips.comesBack (plain_toJson h) h

/-- A report is read from what is printed for it. -/
theorem Report.ofText_json {r : Report} (h : r.InRange) : Reader.ofText ofJson r.json = .ok r :=
  (Reader.ofText_eq (parse?_pretty_newline (plain_toJson h))).trans
    (roundTrips.read_write h)

/-- **What is saved comes back.** A bundle or a report whose numbers are in range is read back as it
was from what is written for it, and from its text on one line or over several. Nothing else is
ever read, so what was accepted from any text comes back after it was written. -/
theorem comesBack_saved :
    (∀ b : Bundle, b.InRange → ComesBack Bundle.toJson Bundle.ofJson b) ∧
    (∀ r : Report, r.InRange → ComesBack Report.toJson Report.ofJson r) ∧
    (∀ text b, Reader.ofText Bundle.ofJson text = .ok b →
      b.InRange ∧ ComesBack Bundle.toJson Bundle.ofJson b) ∧
    (∀ text r, Reader.ofText Report.ofJson text = .ok r →
      r.InRange ∧ ComesBack Report.toJson Report.ofJson r) := by
  refine ⟨fun b => Bundle.comesBack, fun r => Report.comesBack, fun text b hread => ?_,
    fun text r hread => ?_⟩
  · have hrange : b.InRange := Bundle.roundTrips.inRange_of_ofText hread
    exact ⟨hrange, Bundle.comesBack hrange⟩
  · have hrange : r.InRange := Report.roundTrips.inRange_of_ofText hread
    exact ⟨hrange, Report.comesBack hrange⟩

/-- A wallet with one transaction, which pays 100 to an address. -/
def Bundle.sampleSaved : Bundle where
  params? := some .standard
  chain := .atHeight 5
  wallet := .empty
  relay := .atTime 0
  transactions :=
    [{ Transaction.blank ⟨List.replicate 32 7, rfl⟩ 0 with outputs := [⟨100, .address "a"⟩] }]

/-- A report without entries, but with a notice. -/
def Report.sampleSaved : Report where
  entries := []
  notices := [⟨⟨List.replicate 32 7, rfl⟩, .severalNotes 2⟩]

theorem comesBack_saved_samples :
    ComesBack Bundle.toJson Bundle.ofJson .sampleSaved ∧
      ComesBack Report.toJson Report.ofJson .sampleSaved := by
  have hbundle : Bundle.sampleSaved.InRange := by
    refine ⟨?_, ⟨by decide, nofun⟩, ⟨nofun, nofun⟩, ⟨by decide, nofun⟩, ?_⟩
    · rintro _ ⟨⟩
      exact Params.inRange_standard
    · exact List.forall_mem_singleton.mpr ⟨List.forall_mem_singleton.mpr ⟨by decide⟩, nofun⟩
  have hreport : Report.sampleSaved.InRange :=
    ⟨fun _ he => absurd he List.not_mem_nil,
      List.forall_mem_singleton.mpr (.severalNotes (by decide))⟩
  obtain ⟨hwritten, hwritten', hread, hread'⟩ := comesBack_saved
  have htext := (hwritten _ hbundle).pretty
  have htext' := (hwritten' _ hreport).pretty
  exact ⟨(hread _ _ htext).2, (hread' _ _ htext').2⟩

end ShieldedLedger
