import ShieldedLedger.Proofs.Kinds
import ShieldedLedger.Proofs.MapLaws
import ShieldedLedger.Proofs.ReportContents
import ShieldedLedger.Proofs.ReportFailure

/-!
# Block rewards in a report

A block reward cannot be spent for some blocks after it was mined. Whether it must still wait is
asked of the transaction, but a state is found by the kind of a record, so a report shows the wait
only where the records of a block reward are of the kind for block rewards. The transparent rule
sees to that. The rules for the pool do not: a reward that touches the pool and is read by one of
them is shown as confirming or confirmed while it must wait. The balance is not deceived, because it
asks the transaction.

## Main definitions

* `ChainSnapshot.MinedBelowTip` — nothing is mined above the tip

## Main results

* `ChainSnapshot.MinedBelowTip.depth_pos` — what is shown of block rewards is mined
* `Bundle.report_coinbase` — how a report shows a block reward that must wait
-/

namespace ShieldedLedger

/-! ### The chain -/

/-- No entry tells of a block above the tip. -/
def ChainSnapshot.MinedBelowTip (c : ChainSnapshot) : Prop :=
  ∀ e ∈ c.transactions.entries, ∀ blockHeight, e.2.blockHeight? = some blockHeight →
    blockHeight ≤ c.height

/-- What is in the best chain of such a snapshot has a depth. -/
theorem ChainSnapshot.MinedBelowTip.depth_pos {c : ChainSnapshot} (h : c.MinedBelowTip)
    {tx : Transaction} (hbest : c.view.inBestChain tx) : 0 < c.view.depth tx := by
  simp only [view, depth] at hbest ⊢
  cases hentry : c.entry? tx.hash with
  | none => simp [hentry] at hbest
  | some e =>
    obtain ⟨blockHeight?, inBestChain, conflictDepth?, _⟩ := e
    have hshape : inBestChain ∧ blockHeight?.isSome ∧ conflictDepth?.isNone := by
      simpa [hentry, isBest, and_assoc] using hbest
    obtain ⟨rfl, hblock, hconflict⟩ := hshape
    obtain ⟨blockHeight, rfl⟩ := Option.isSome_iff_exists.mp hblock
    cases Option.isNone_iff_eq_none.mp hconflict
    have hle : blockHeight ≤ c.height := h _ (SortedMap.mem_of_get? hentry) _ rfl
    simp only [Option.map_some, Option.getD_some, depthOf]
    omega

/-! ### The report -/

namespace Bundle

variable {b : Bundle} {p : Params}

/-- Every entry of a report belongs to a transaction that is shown. -/
theorem exists_part_of_mem {r : Report} (h : b.report p = .ok r) {entry : ReportEntry}
    (he : entry ∈ r.entries) : ∃ part : b.Part p, part.tx ∈ b.shown ∧ entry ∈ part.entries := by
  obtain ⟨ps, hps, hentries, _⟩ := report_eq_ok_iff.mp h
  obtain ⟨parts, hshown, rfl⟩ := exists_parts (mapM_eq_ok_iff.mp hps)
  rw [hentries, mem_newestFirst, List.flatMap_map] at he
  obtain ⟨part, hpart, hmem⟩ := List.mem_flatMap.mp he
  exact ⟨part, hshown ▸ List.mem_map_of_mem hpart, hmem⟩

/-- **How a report shows a block reward that must wait.** It never counts for the balance. If it is
final, its records show the wait just if it is read by the transparent rule; read by a rule for the
pool they are confirming or confirmed, as if there were no wait. -/
theorem report_coinbase {r : Report} (hmined : b.chain.MinedBelowTip) (h : b.report p = .ok r) :
    (∀ entry ∈ r.entries, ∃ part : b.Part p, part.tx ∈ b.shown ∧ entry ∈ part.entries) ∧
    ∀ part : b.Part p, part.tx ∈ b.shown → part.tx.isCoinbase →
      0 < b.chain.view.blocksToMaturity part.tx p.coinbaseMaturity →
      ∀ entry ∈ part.entries,
        entry.status.countsForBalance = false ∧
        (entry.status.state = .immature ∨ entry.status.state = .maturesWarning ↔
          b.chain.view.isFinal part.tx p.lockTimeThreshold ∧
            Rule.of b.wallet.view part.tx = .transparent) ∧
        (entry.status.state = .confirming ∨ entry.status.state = .confirmed ↔
          b.chain.view.isFinal part.tx p.lockTimeThreshold ∧
            Rule.of b.wallet.view part.tx ≠ .transparent) := by
  refine ⟨fun entry => exists_part_of_mem h, fun part hpart hcoinbase hwait entry he => ?_⟩
  have hbest : b.chain.view.inBestChain part.tx :=
    ChainView.shows_iff.mp (mem_shown_iff.mp hpart).2 hcoinbase
  have hkind : entry.record.kind = .generated ↔ Rule.of b.wallet.view part.tx = .transparent :=
    kind_of_classify hcoinbase part.classify_eq (part.records_eq ▸ List.mem_map_of_mem he)
  have hne := Int.ne_of_gt hwait
  obtain ⟨_, hstatus⟩ := Status.derive_eq_ok_iff.mp (part.status_eq entry he)
  rw [hstatus]
  refine ⟨?_, ?_, ?_⟩
  · exact Bool.eq_false_iff.mpr fun hcounts => hne (Status.countsForBalance_of.mp hcounts).2
  · refine stateOf_maturing_iff.trans (and_congr_right fun _ => ?_)
    rw [hkind]
    exact ⟨fun hrule => hrule.1, fun hrule => ⟨hrule, hne, hbest⟩⟩
  · refine stateOf_mined_iff.trans (and_congr_right fun _ => ?_)
    rw [Ne, Ne, hkind]
    constructor
    · rintro (⟨_, hzero⟩ | ⟨hrule, _⟩)
      · exact absurd hzero hne
      · exact hrule
    · exact fun hrule => .inr ⟨hrule, hmined.depth_pos hbest⟩

/-- A block reward that brings 100 to an address, and what it puts into the pool. -/
def sampleReward (shielded : List PoolTransfer) : Transaction :=
  { sampleReceipt 1 with isCoinbase := true, shielded }

/-- A wallet with one block reward, which is ten blocks deep. -/
def sampleMining (shielded : List PoolTransfer) : Bundle where
  params? := none
  chain := (ChainSnapshot.atHeight 10).mine (sampleReward shielded).hash 1
  wallet := WalletSnapshot.empty.own "mine" .spendable
  relay := .atTime 0
  transactions := [sampleReward shielded]

theorem minedBelowTip_sampleMining (shielded : List PoolTransfer) :
    (sampleMining shielded).chain.MinedBelowTip := by
  intro e he blockHeight hblock
  cases List.mem_singleton.mp he
  cases hblock
  exact (by decide : (1 : Int) ≤ 10)

/-- A reward that keeps out of the pool waits, and one that pays into it seems confirmed. -/
theorem report_coinbase_sampleMining :
    (∃ r, (sampleMining []).report .standard = .ok r ∧ ∃ entry ∈ r.entries,
      entry.status.state = .immature ∨ entry.status.state = .maturesWarning) ∧
    ∃ r, (sampleMining [⟨0, 50, []⟩]).report .standard = .ok r ∧ ∃ entry ∈ r.entries,
      entry.status.countsForBalance = false ∧
        (entry.status.state = .confirming ∨ entry.status.state = .confirmed) := by
  have h : (sampleMining []).report .standard = .ok ⟨newestFirst [_], _⟩ :=
    report_eq_ok_iff.mpr ⟨_, rfl, rfl, rfl⟩
  have h' : (sampleMining [⟨0, 50, []⟩]).report .standard = .ok ⟨newestFirst [_], _⟩ :=
    report_eq_ok_iff.mpr ⟨_, rfl, rfl, rfl⟩
  obtain ⟨hparts, hstates⟩ := report_coinbase (minedBelowTip_sampleMining _) h
  obtain ⟨hparts', hstates'⟩ := report_coinbase (minedBelowTip_sampleMining _) h'
  obtain ⟨part, hshown, he⟩ := hparts _ (mem_newestFirst.mpr List.mem_cons_self)
  obtain ⟨part', hshown', he'⟩ := hparts' _ (mem_newestFirst.mpr List.mem_cons_self)
  have htx : part.tx = sampleReward [] := List.mem_singleton.mp hshown
  have htx' : part'.tx = sampleReward [⟨0, 50, []⟩] := List.mem_singleton.mp hshown'
  obtain ⟨_, hwaits, _⟩ := hstates part hshown (by rw [htx]; rfl) (by rw [htx]; decide) _ he
  obtain ⟨hcounts, _, hmined⟩ :=
    hstates' part' hshown' (by rw [htx']; rfl) (by rw [htx']; decide) _ he'
  exact ⟨⟨_, h, _, mem_newestFirst.mpr List.mem_cons_self, hwaits.mpr (by rw [htx]; decide)⟩, _, h',
    _, mem_newestFirst.mpr List.mem_cons_self, hcounts, hmined.mpr (by rw [htx']; decide)⟩

/-- With parameters that can be used, a block reward is shown as confirmed although it must wait. -/
theorem exists_confirmed_of_waiting :
    ∃ (b : Bundle) (p : Params) (r : Report) (part : b.Part p) (entry : ReportEntry),
      b.chain.MinedBelowTip ∧ p.fault? = none ∧ b.report p = .ok r ∧ part.tx ∈ b.shown ∧
        entry ∈ part.entries ∧ entry ∈ r.entries ∧ part.tx.isCoinbase ∧
        0 < b.chain.view.blocksToMaturity part.tx p.coinbaseMaturity ∧
        entry.status.state = .confirmed :=
  ⟨sampleMining [⟨0, 50, []⟩], .standard, ⟨newestFirst [_], _⟩,
    ⟨sampleReward [⟨0, 50, []⟩], _, [_], rfl, rfl, List.forall_mem_singleton.mpr rfl⟩, _,
    minedBelowTip_sampleMining _, rfl, report_eq_ok_iff.mpr ⟨_, rfl, rfl, rfl⟩,
    List.mem_cons_self, List.mem_cons_self,
    mem_newestFirst.mpr List.mem_cons_self, rfl, by decide, rfl⟩

end Bundle

end ShieldedLedger
