import ShieldedLedger.Bundle
import ShieldedLedger.Proofs.Stage
import ShieldedLedger.Proofs.Traversal

/-!
# A report, part by part

A report is put together from parts, one for each transaction that is shown, and a part from the
records of that transaction with their status. This file takes the log away: what remains are two
traversals in `Except`, one inside the other, to which the laws of traversals apply.

## Main definitions

* `Bundle.withStatus` — a record with its status
* `Bundle.partOf` — what a transaction contributes

## Main results

* `Bundle.report_eq` — a report is the traversal of the parts
* `Bundle.withStatus_eq_ok_iff`, `Bundle.partOf_eq_ok_iff` — when the parts exist
-/

namespace ShieldedLedger

namespace Bundle

variable {b : Bundle} {p : Params} {tx : Transaction}

/-- A record of a transaction with its status. -/
def withStatus (b : Bundle) (p : Params) (tx : Transaction) (record : Record) :
    Except LedgerError ReportEntry := do
  let status ← Status.derive b.chain.view b.relay.view p tx record
  return { record, status }

/-- What a transaction contributes to the report. -/
def partOf (b : Bundle) (p : Params) (tx : Transaction) :
    Except LedgerError (List ReportEntry × List TxNotice) := do
  let c ← classify b.wallet.view p tx
  let entries ← c.records.mapM (b.withStatus p tx)
  return (entries, c.notices.map fun notice => { tx := tx.hash, notice })

theorem mem_shown_iff : tx ∈ b.shown ↔ tx ∈ b.transactions ∧ b.chain.view.shows tx :=
  List.mem_filter

/-- The log does not matter for the part of a transaction. -/
theorem result_entriesOf (b : Bundle) (p : Params) (tx : Transaction) :
    (b.entriesOf p tx).result = b.partOf p tx := by
  rw [entriesOf]
  simp only [Logged.result_bind, Logged.result_mapM, Status.result_deriveLogged]
  rfl

/-- **A report is the traversal of its parts.** -/
theorem report_eq (b : Bundle) (p : Params) :
    b.report p = do
      let parts ← b.shown.mapM (b.partOf p)
      return { entries := newestFirst (parts.flatMap (·.1)), notices := parts.flatMap (·.2) } := by
  have hpart : (fun tx => (b.entriesOf p tx).result) = b.partOf p :=
    funext (result_entriesOf b p)
  rw [report, reportLogged, Logged.result_bind, Logged.result_mapM, hpart]
  rfl

/-! ### When the parts exist -/

theorem withStatus_eq_ok_iff {r : Record} {entry : ReportEntry} :
    b.withStatus p tx r = .ok entry ↔
      entry.record = r ∧
        Status.derive b.chain.view b.relay.view p tx r = .ok entry.status := by
  rw [withStatus, bind_eq_ok_iff]
  constructor
  · rintro ⟨status, hstatus, h⟩
    cases h
    exact ⟨rfl, hstatus⟩
  · rintro ⟨rfl, hstatus⟩
    exact ⟨entry.status, hstatus, rfl⟩

/-- Whether it has one does not depend on the record. -/
theorem withStatus_eq_error_iff {r : Record} {e : LedgerError} :
    b.withStatus p tx r = .error e ↔
      b.chain.view.contradicts tx ∧ e = .missingBlockIndex tx.hash := by
  rw [withStatus, bind_pure_eq_error_iff, Status.derive_eq_error_iff]

theorem mapM_withStatus_eq_error_iff {rs : List Record} {e : LedgerError} :
    rs.mapM (b.withStatus p tx) = .error e ↔
      rs ≠ [] ∧ b.chain.view.contradicts tx ∧ e = .missingBlockIndex tx.hash := by
  rw [mapM_eq_error_iff]
  constructor
  · rintro ⟨before, r, after, rfl, -, hr⟩
    exact ⟨by simp, withStatus_eq_error_iff.mp hr⟩
  · rintro ⟨hne, h⟩
    cases rs with
    | nil => exact absurd rfl hne
    | cons r rs => exact ⟨[], r, rs, rfl, nofun, withStatus_eq_error_iff.mpr h⟩

theorem partOf_eq_ok_iff {part : List ReportEntry × List TxNotice} :
    b.partOf p tx = .ok part ↔
      ∃ c, classify b.wallet.view p tx = .ok c ∧
        c.records.mapM (b.withStatus p tx) = .ok part.1 ∧
        part.2 = c.notices.map fun notice => { tx := tx.hash, notice } := by
  rw [partOf, bind_eq_ok_iff]
  refine exists_congr fun c => and_congr_right fun _ => bind_pure_eq_ok_iff.trans ?_
  constructor
  · rintro ⟨entries, hentries, rfl⟩
    exact ⟨hentries, rfl⟩
  · rintro ⟨hentries, hnotices⟩
    exact ⟨part.1, hentries, Prod.ext rfl hnotices⟩

/-- A part fails in the classification, or because the chain contradicts itself about a transaction
that has records. -/
theorem partOf_eq_error_iff {e : LedgerError} :
    b.partOf p tx = .error e ↔
      classify b.wallet.view p tx = .error e ∨
        ∃ c, classify b.wallet.view p tx = .ok c ∧ c.records ≠ [] ∧
          b.chain.view.contradicts tx ∧ e = .missingBlockIndex tx.hash := by
  rw [partOf, bind_eq_error_iff]
  simp only [bind_pure_eq_error_iff, mapM_withStatus_eq_error_iff]

theorem report_eq_error_iff {e : LedgerError} :
    b.report p = .error e ↔ b.shown.mapM (b.partOf p) = .error e := by
  rw [report_eq, bind_pure_eq_error_iff]

theorem report_eq_ok_iff {r : Report} :
    b.report p = .ok r ↔
      ∃ parts, b.shown.mapM (b.partOf p) = .ok parts ∧
        r.entries = newestFirst (parts.flatMap (·.1)) ∧ r.notices = parts.flatMap (·.2) := by
  rw [report_eq, bind_pure_eq_ok_iff]
  refine exists_congr fun parts => and_congr_right fun _ => ?_
  constructor
  · rintro rfl
    exact ⟨rfl, rfl⟩
  · rintro ⟨hentries, hnotices⟩
    cases r
    cases hentries
    cases hnotices
    rfl

end Bundle

end ShieldedLedger
