import ShieldedLedger.Proofs.ReportContents

/-!
# The order of the transactions

A bundle lists the wallet's transactions in some order, and a report works through them in that
order: it stops at the first that fails, and its sort leaves entries with equal keys where they
were. This file says what of a report depends on the order. Each transaction contributes its part by
itself, so whether there is a report does not depend on it, nor does what the report contains, nor
the sequence of keys. All that is left are ties: entries with one key stand as their transactions
stood.

## Main definitions

* `Report.EqualUpToTies` — two reports that differ in the order of notices and tied entries at most

## Main results

* `Bundle.exists_report_of_perm` — a report of a bundle is one of the reordered bundle, up to ties
* `Bundle.report_perm` — the same in both directions
-/

namespace ShieldedLedger

/-- Two reports differ at most in the order of their notices and of entries with equal keys. -/
structure Report.EqualUpToTies (r r' : Report) : Prop where
  /-- They have the same entries, each as often. -/
  entries : r.entries.Perm r'.entries
  /-- The keys of the entries stand in the same order. -/
  sortKeys : r.entries.map (·.status.sortKey) = r'.entries.map (·.status.sortKey)
  /-- They have the same notices, each as often. -/
  notices : r.notices.Perm r'.notices
  /-- If no two entries have one key, the entries stand in the same order. -/
  of_nodup : (r.entries.map (·.status.sortKey)).Nodup → r.entries = r'.entries

namespace Bundle

variable {b : Bundle} {p : Params} {txs : List Transaction}

theorem shown_perm (hperm : txs.Perm b.transactions) :
    { b with transactions := txs }.shown.Perm b.shown :=
  hperm.filter _

/-- What a transaction contributes does not depend on the others, so a report is put together from
the same parts in every order. -/
theorem exists_report_of_perm (hperm : txs.Perm b.transactions) {r : Report}
    (h : b.report p = .ok r) :
    ∃ r', { b with transactions := txs }.report p = .ok r' ∧ r'.EqualUpToTies r := by
  obtain ⟨parts, hparts, hentries, hnotices⟩ := report_eq_ok_iff.mp h
  obtain ⟨parts', hparts', hperm'⟩ := exists_mapM_eq_ok_of_perm (shown_perm hperm) hparts
  refine ⟨⟨newestFirst (parts'.flatMap (·.1)), parts'.flatMap (·.2)⟩,
    report_eq_ok_iff.mpr ⟨parts', hparts', rfl, rfl⟩, ?_⟩
  have hall : (parts'.flatMap (·.1)).Perm (parts.flatMap (·.1)) := hperm'.flatMap_right _
  have hsorted := newestFirst_stableDescending (parts.flatMap (·.1))
  have hsorted' := newestFirst_stableDescending (parts'.flatMap (·.1))
  rw [← hentries] at hsorted
  exact {
    entries := (hsorted'.perm.trans hall).trans hsorted.perm.symm
    sortKeys := hsorted'.map_key_eq hall hsorted
    notices := hnotices ▸ hperm'.flatMap_right _
    of_nodup := hsorted'.eq_of_nodup hall hsorted }

/-- **A report does not depend on the order of the transactions, up to ties.** -/
theorem report_perm (hperm : txs.Perm b.transactions) :
    ((∃ r, b.report p = .ok r) ↔ ∃ r, { b with transactions := txs }.report p = .ok r) ∧
    ∀ r r', b.report p = .ok r → { b with transactions := txs }.report p = .ok r' →
      r'.EqualUpToTies r := by
  refine ⟨⟨fun ⟨r, h⟩ => ?_, fun ⟨r', h'⟩ => ?_⟩, fun r r' h h' => ?_⟩
  · obtain ⟨r', h', _⟩ := exists_report_of_perm hperm h
    exact ⟨r', h'⟩
  · -- the reordered bundle is as good a starting point
    obtain ⟨r, h, _⟩ := exists_report_of_perm (b := { b with transactions := txs }) hperm.symm h'
    exact ⟨r, h⟩
  · obtain ⟨r'', h'', hequal⟩ := exists_report_of_perm hperm h
    rw [h'] at h''
    cases h''
    exact hequal

/-- The two receipts of the sample have different keys, so their order does not matter at all. -/
theorem report_perm_sample :
    [sampleReceipt 2, sampleReceipt 1].Perm sample.transactions ∧
    ∃ r r', sample.report .standard = .ok r ∧
      { sample with transactions := [sampleReceipt 2, sampleReceipt 1] }.report .standard = .ok r' ∧
      (r'.entries.map (·.status.sortKey)).Nodup ∧ r'.entries = r.entries := by
  have hperm : [sampleReceipt 2, sampleReceipt 1].Perm sample.transactions := .swap _ _ _
  obtain ⟨r, h, hnodup⟩ : ∃ r, sample.report .standard = .ok r ∧
      (r.entries.map (·.status.sortKey)).Nodup := by
    refine ⟨⟨newestFirst _, _⟩, report_eq_ok_iff.mpr ⟨_, rfl, rfl, rfl⟩, ?_⟩
    exact ((newestFirst_stableDescending _).perm.map _).nodup_iff.mpr (by decide)
  obtain ⟨r', h'⟩ := (report_perm hperm).1.mp ⟨r, h⟩
  have hequal := (report_perm hperm).2 r r' h h'
  rw [← hequal.sortKeys] at hnodup
  exact ⟨hperm, r, r', h, h', hnodup, hequal.of_nodup hnodup⟩

end Bundle

end ShieldedLedger
