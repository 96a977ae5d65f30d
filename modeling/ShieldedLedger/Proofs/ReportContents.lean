import Mathlib.Data.List.Nodup
import ShieldedLedger.Proofs.NewestFirst
import ShieldedLedger.Proofs.ReportParts
import ShieldedLedger.Proofs.Rule

/-!
# What a report contains

A report that is computed loses nothing and repeats nothing: its entries are the records of the
transactions that are shown, each with its status, and its notices are theirs. Sorting does not
break this, and it sorts by height first.

Records are numbered within their transaction, so a pair of hash and index names an entry as long as
no two transactions that are shown have one hash.

## Main definitions

* `Bundle.Part` — a transaction with its classification and its entries
* `Bundle.heightOf` — the height of the block that an entry is in

## Main results

* `Bundle.exists_parts` — the parts behind a traversal that succeeded
* `Bundle.Part.names_entries` — the names of the entries of a part
* `Bundle.report_ok` — what a report contains, and in which order
-/

namespace ShieldedLedger

/-! ### Numbered records -/

namespace Record

variable {tx : Transaction} {ms : List Movement}

/-- Movements are numbered from zero. -/
theorem index_ofMovements (tx : Transaction) (ms : List Movement) :
    (ofMovements tx ms).map (·.index) = List.range ms.length := by
  refine List.ext_getElem (by simp) fun i _ _ => ?_
  simp [ofMovements, ofMovement]

theorem of_mem_ofMovements {r : Record} (h : r ∈ ofMovements tx ms) :
    r.hash = tx.hash ∧ r.time = tx.timeReceived := by
  obtain ⟨_, _, _, rfl⟩ := mem_ofMovements_iff.mp h
  exact ⟨rfl, rfl⟩

end Record

/-- Whatever the rule, the records are numbered movements. -/
theorem exists_ofMovements_of_classify {w : WalletView} {p : Params} {tx : Transaction}
    {c : Classification} (hc : classify w p tx = .ok c) :
    ∃ ms, c.records = Record.ofMovements tx ms := by
  obtain ⟨_, _, _, rfl⟩ := classify_eq_ok_iff.mp hc
  rw [classification_records]
  split
  · exact ⟨_, rfl⟩
  · exact ⟨[], rfl⟩

namespace Bundle

variable {b : Bundle} {p : Params}

/-! ### The parts -/

/-- A transaction with its classification and its entries. -/
structure Part (b : Bundle) (p : Params) where
  /-- The transaction. -/
  tx : Transaction
  /-- Its classification. -/
  classification : Classification
  /-- The entries of its records. -/
  entries : List ReportEntry
  /-- The classification is that of the transaction. -/
  classify_eq : classify b.wallet.view p tx = .ok classification
  /-- There is one entry for each record, in order. -/
  records_eq : entries.map (·.record) = classification.records
  /-- Each entry has the status of its record. -/
  status_eq : ∀ entry ∈ entries,
    Status.derive b.chain.view b.relay.view p tx entry.record = .ok entry.status

/-- The notices of a part, with the transaction they are about. -/
def Part.notices (part : b.Part p) : List TxNotice :=
  part.classification.notices.map fun notice => { tx := part.tx.hash, notice }

theorem entries_of_forall₂ {tx : Transaction} {rs : List Record} {entries : List ReportEntry}
    (h : List.Forall₂ (fun r entry => b.withStatus p tx r = .ok entry) rs entries) :
    entries.map (·.record) = rs ∧ ∀ entry ∈ entries,
      Status.derive b.chain.view b.relay.view p tx entry.record = .ok entry.status := by
  induction h with
  | nil => exact ⟨rfl, by simp⟩
  | cons hentry _ ih =>
    obtain ⟨rfl, hstatus⟩ := withStatus_eq_ok_iff.mp hentry
    exact ⟨congrArg _ ih.1, List.forall_mem_cons.mpr ⟨hstatus, ih.2⟩⟩

/-- Behind each step of a traversal that succeeded there is a part. -/
theorem exists_parts {txs : List Transaction} {ps : List (List ReportEntry × List TxNotice)}
    (h : List.Forall₂ (fun tx part => b.partOf p tx = .ok part) txs ps) :
    ∃ parts : List (b.Part p), parts.map (·.tx) = txs ∧
      parts.map (fun part => (part.entries, part.notices)) = ps := by
  induction h with
  | nil => exact ⟨[], rfl, rfl⟩
  | @cons tx _ _ _ hpart _ ih =>
    obtain ⟨c, hc, hentries, hnotices⟩ := partOf_eq_ok_iff.mp hpart
    obtain ⟨hrecords, hstatus⟩ := entries_of_forall₂ (mapM_eq_ok_iff.mp hentries)
    obtain ⟨parts, rfl, rfl⟩ := ih
    refine ⟨⟨tx, c, _, hc, hrecords, hstatus⟩ :: parts, rfl, congrArg (· :: _) ?_⟩
    exact Prod.ext rfl hnotices.symm

/-- What tells the entries of a report apart. -/
def nameOf (entry : ReportEntry) : TxHash × Nat := (entry.record.hash, entry.record.index)

/-- The entries of a part are named by its hash and the numbers from zero. -/
theorem Part.names_entries (part : b.Part p) :
    part.entries.map nameOf =
      (List.range part.classification.records.length).map (part.tx.hash, ·) := by
  obtain ⟨ms, hms⟩ := exists_ofMovements_of_classify part.classify_eq
  have hname : part.entries.map nameOf =
      part.classification.records.map fun r => (r.hash, r.index) := by
    rw [← part.records_eq, List.map_map]
    rfl
  rw [hname, hms, Record.length_ofMovements]
  refine List.ext_getElem (by simp) fun i _ _ => ?_
  simp [Record.ofMovements, Record.ofMovement]

/-- If no two of some parts are about one hash, their names are all different. -/
theorem nodup_names {parts : List (b.Part p)} (h : (parts.map (·.tx.hash)).Nodup) :
    ((parts.flatMap (·.entries)).map nameOf).Nodup := by
  rw [List.map_flatMap, List.nodup_flatMap]
  refine ⟨fun part _ => ?_, (List.pairwise_map.mp h).imp fun {part part'} hne => ?_⟩
  · rw [part.names_entries]
    exact List.nodup_range.map fun i j hij => (Prod.ext_iff.mp hij).2
  · intro name hmem hmem'
    simp only [Part.names_entries, List.mem_map] at hmem hmem'
    obtain ⟨_, _, rfl⟩ := hmem
    obtain ⟨_, _, hname⟩ := hmem'
    exact hne (Prod.ext_iff.mp hname).1.symm

/-! ### Heights -/

/-- The height of the block that an entry is in, according to the chain. -/
def heightOf (b : Bundle) (entry : ReportEntry) : Option Int :=
  (b.chain.entry? entry.record.hash).bind (·.blockHeight?)

theorem sortKey_of_derive {chain : ChainView} {relay : RelayView} {tx : Transaction} {r : Record}
    {s : Status} (h : Status.derive chain relay p tx r = .ok s) :
    s.sortKey = .of chain tx r.index := by
  obtain ⟨_, rfl⟩ := Status.derive_eq_ok_iff.mp h
  rfl

theorem Part.height_sortKey {part : b.Part p} {entry : ReportEntry} (h : entry ∈ part.entries) :
    entry.status.sortKey.height = (b.heightOf entry).getD unminedHeight := by
  obtain ⟨ms, hms⟩ := exists_ofMovements_of_classify part.classify_eq
  have hmem : entry.record ∈ Record.ofMovements part.tx ms := by
    rw [← hms, ← part.records_eq]
    exact List.mem_map_of_mem h
  rw [sortKey_of_derive (part.status_eq entry h), heightOf, (Record.of_mem_ofMovements hmem).1]
  rfl

/-- A key is compared by height first, and what is not in a block counts as very high. -/
theorem height_le_of_ble {entry entry' : ReportEntry}
    (h : entry.status.sortKey.height = (b.heightOf entry).getD unminedHeight)
    (h' : entry'.status.sortKey.height = (b.heightOf entry').getD unminedHeight)
    (hble : entry'.status.sortKey.ble entry.status.sortKey) {height : Int}
    (hheight : b.heightOf entry = some height) :
    (b.heightOf entry').getD unminedHeight ≤ height := by
  rw [SortKey.ble_iff, h, h', hheight, Option.getD_some] at hble
  omega

/-! ### The report -/

/-- **A report that is computed is complete, without repetitions, and in order.** -/
theorem report_ok {r : Report} (h : b.report p = .ok r) :
    ∃ parts : List (b.Part p),
      parts.map (·.tx) = b.shown ∧
      (∀ sorted, StableDescending (·.status.sortKey) (parts.flatMap (·.entries)) sorted ↔
        sorted = r.entries) ∧
      r.notices = parts.flatMap (·.notices) ∧
      (∀ part ∈ parts,
        part.classification.records.map (·.index) =
            List.range part.classification.records.length ∧
          ∀ record ∈ part.classification.records,
            record.hash = part.tx.hash ∧ record.time = part.tx.timeReceived) ∧
      ((b.shown.map (·.hash)).Nodup →
        (r.entries.map fun e => (e.record.hash, e.record.index)).Nodup) ∧
      r.entries.Pairwise fun e e' => ∀ height, b.heightOf e = some height →
        (∀ height', b.heightOf e' = some height' → height' ≤ height) ∧
          (b.heightOf e' = none → unminedHeight ≤ height) := by
  obtain ⟨ps, hps, hentries, hnotices⟩ := report_eq_ok_iff.mp h
  obtain ⟨parts, hshown, rfl⟩ := exists_parts (mapM_eq_ok_iff.mp hps)
  rw [List.flatMap_map] at hentries hnotices
  have hsorted : StableDescending (·.status.sortKey) (parts.flatMap (·.entries)) r.entries :=
    hentries ▸ newestFirst_stableDescending _
  refine ⟨parts, hshown, fun sorted => ⟨fun h => h.unique hsorted, fun h => h ▸ hsorted⟩,
    hnotices, fun part _ => ?_, fun hnodup => ?_, ?_⟩
  · obtain ⟨ms, hms⟩ := exists_ofMovements_of_classify part.classify_eq
    rw [hms, Record.length_ofMovements]
    exact ⟨Record.index_ofMovements _ _, fun record => Record.of_mem_ofMovements⟩
  · rw [← hshown, List.map_map] at hnodup
    exact ((hsorted.perm.map nameOf).nodup_iff).mpr (nodup_names hnodup)
  · have hheight : ∀ e ∈ r.entries,
        e.status.sortKey.height = (b.heightOf e).getD unminedHeight := fun e he => by
      obtain ⟨part, _, hmem⟩ := List.mem_flatMap.mp (hsorted.perm.mem_iff.mp he)
      exact Part.height_sortKey hmem
    refine hsorted.ordered.imp_of_mem fun {e e'} he he' hble height hsome => ?_
    have hle := height_le_of_ble (hheight e he) (hheight e' he') hble hsome
    exact ⟨fun height' h' => by simpa [h'] using hle, fun h' => by simpa [h'] using hle⟩

/-- A transaction that brings 100 to an address. -/
def sampleReceipt (byte : UInt8) : Transaction :=
  { Transaction.blank ⟨List.replicate 32 byte, rfl⟩ 0 with outputs := [⟨100, .address "mine"⟩] }

/-- A wallet with two receipts, the first of which was mined. -/
def sample : Bundle where
  params? := none
  chain := (ChainSnapshot.atHeight 10).mine (sampleReceipt 1).hash 5
  wallet := WalletSnapshot.empty.own "mine" .spendable
  relay := .atTime 0
  transactions := [sampleReceipt 1, sampleReceipt 2]

theorem report_ok_sample :
    ∃ r, sample.report .standard = .ok r ∧ r.entries.length = 2 ∧
      (r.entries.map fun e => (e.record.hash, e.record.index)).Nodup := by
  have h : sample.report .standard = .ok ⟨newestFirst _, _⟩ :=
    report_eq_ok_iff.mpr ⟨_, rfl, rfl, rfl⟩
  obtain ⟨_, _, _, _, _, hnodup, _⟩ := report_ok h
  exact ⟨_, h, (newestFirst_stableDescending _).perm.length_eq, hnodup (by decide)⟩

end Bundle

end ShieldedLedger
