import ShieldedLedger.Proofs.ReportParts
import ShieldedLedger.Proofs.Rule

/-!
# When a report fails

A report is computed from views, and a view could contradict itself in many ways. The views of a
bundle are those of snapshots, and there most contradictions cannot arise: a wallet calls an input
its own only after it has looked up what the input spends, and a chain counts blocks on top of a
transaction only if it names the block, but for one malformed kind of entry. This file states the
failures that remain and shows that the report fails with the first of them.

## Main definitions

* `WalletSnapshot.ownCoins` — the outputs of the wallet that a transaction spends
* `ChainEntry.Misplaced` — the malformed entries
* `Bundle.Fails` — what makes a transaction fail the report, with the error

## Main results

* `WalletSnapshot.knowsSpent_view` — an owned input is always known
* `ChainSnapshot.contradicts_view_iff` — a chain contradicts itself by a misplaced entry only
* `Bundle.partOf_eq_error_iff_fails` — the part of a transaction fails just so
* `Bundle.report_error_iff` — and the report with the first of them
-/

namespace ShieldedLedger

/-! ### The wallet -/

namespace WalletSnapshot

variable {w : WalletSnapshot} {tx : Transaction}

/-- The outputs that a transaction spends, as far as the wallet has seen and owns them. -/
def ownCoins (w : WalletSnapshot) (tx : Transaction) : List TxOutput :=
  (tx.inputs.filterMap fun i => w.output? i.prevout).filter fun out =>
    (w.scriptOwnership out.script).isMine

/-- An input is owned as much as the output it spends. -/
theorem inputOwnership_of_output {i : TxInput} {out : TxOutput}
    (h : w.output? i.prevout = some out) :
    w.view.inputOwnership i = w.scriptOwnership out.script := by
  simp only [view, h, Option.map_some, Option.getD_some]

theorem not_isMine_of_output_eq_none {i : TxInput} (h : w.output? i.prevout = none) :
    ¬(w.view.inputOwnership i).isMine := by
  simp only [view, h, Option.map_none, Option.getD_none]
  decide

/-- An owned input has been looked up. -/
theorem knowsSpent_view (w : WalletSnapshot) (tx : Transaction) : w.view.KnowsSpent tx := by
  intro i _ hmine
  cases h : w.output? i.prevout with
  | none => exact absurd hmine (not_isMine_of_output_eq_none h)
  | some out => exact ⟨out, h⟩

theorem spentOutputs_view (w : WalletSnapshot) (tx : Transaction) :
    w.view.spentOutputs tx = w.ownCoins tx := by
  rw [WalletView.spentOutputs, ownCoins]
  induction tx.inputs with
  | nil => rfl
  | cons i inputs ih =>
    cases h : w.output? i.prevout with
    | none =>
      rw [WalletView.spentBy_cons_of_not_mine (not_isMine_of_output_eq_none h), ih]
      simp [h]
    | some out =>
      have hown := inputOwnership_of_output h
      by_cases hmine : (w.view.inputOwnership i).isMine
      · rw [WalletView.spentBy_cons_of_mine hmine h, ih]
        rw [hown] at hmine
        simp [h, hmine]
      · rw [WalletView.spentBy_cons_of_not_mine hmine, ih]
        rw [hown] at hmine
        simp [h, hmine]

end WalletSnapshot

/-! ### The chain -/

/-- An entry without a block that counts blocks nevertheless: it tells of a conflict of negative
depth. -/
def ChainEntry.Misplaced (e : ChainEntry) : Prop :=
  e.blockHeight? = none ∧ ∃ depth, e.conflictDepth? = some depth ∧ depth < 0

/-- A frozen chain contradicts itself about a transaction only by a misplaced entry. -/
theorem ChainSnapshot.contradicts_view_iff {chain : ChainSnapshot} {tx : Transaction} :
    chain.view.contradicts tx ↔ ∃ e, chain.entry? tx.hash = some e ∧ e.Misplaced := by
  rw [ChainView.contradicts, Bool.and_eq_true, Bool.or_eq_true, decide_eq_true_eq]
  simp only [view, depth]
  cases h : chain.entry? tx.hash with
  | none => simp
  | some e =>
    obtain ⟨blockHeight?, inBestChain, conflictDepth?, _⟩ := e
    cases blockHeight? with
    | some height => simp [ChainEntry.Misplaced]
    | none => cases conflictDepth? <;> simp [ChainEntry.Misplaced, isBest, depthOf]

/-- A transaction is shown unless it is a block reward outside the best chain. -/
theorem ChainView.shows_iff {chain : ChainView} {tx : Transaction} :
    chain.shows tx ↔ (tx.isCoinbase → chain.inBestChain tx) := by
  cases h : tx.isCoinbase <;> simp [ChainView.shows, h]

/-! ### The report -/

namespace Bundle

variable {b : Bundle} {p : Params} {tx : Transaction} {e : LedgerError}

/-- A transaction makes the report fail with an error. The three reasons are checked in this order:
a later one counts only where the earlier ones do not hold. -/
inductive Fails (b : Bundle) (p : Params) (tx : Transaction) : LedgerError → Prop where
  /-- An amount of the transaction is out of range, or takes a total out of it. -/
  | amounts {value : Int} (h : tx.FirstFault value) :
    Fails b p tx (.amountOutOfRange tx.hash value)
  /-- So is, or does, an output of the wallet that it spends. -/
  | spends {value : Int} (hsound : tx.Sound)
    (h : FirstUnsound ((b.wallet.ownCoins tx).map (·.value)) value) :
    Fails b p tx (.amountOutOfRange tx.hash value)
  /-- It has records, but its entry in the chain is misplaced. -/
  | block {c : Classification} {entry : ChainEntry}
    (hc : classify b.wallet.view p tx = .ok c) (hrecords : c.records ≠ [])
    (hentry : b.chain.entry? tx.hash = some entry) (h : entry.Misplaced) :
    Fails b p tx (.missingBlockIndex tx.hash)

/-- **The part of a transaction fails for the three reasons**, and with the errors that belong to
them. -/
theorem partOf_eq_error_iff_fails : b.partOf p tx = .error e ↔ b.Fails p tx e := by
  rw [partOf_eq_error_iff, classify_eq_error_iff (b.wallet.knowsSpent_view tx),
    b.wallet.spentOutputs_view, ChainSnapshot.contradicts_view_iff]
  constructor
  · rintro (⟨v, rfl, hv | ⟨hsound, hv⟩⟩ | ⟨c, hc, hrecords, ⟨entry, hentry, h⟩, rfl⟩)
    · exact .amounts hv
    · exact .spends hsound hv
    · exact .block hc hrecords hentry h
  · rintro (hv | ⟨hsound, hv⟩ | ⟨hc, hrecords, hentry, h⟩)
    · exact .inl ⟨_, rfl, .inl hv⟩
    · exact .inl ⟨_, rfl, .inr ⟨hsound, hv⟩⟩
    · exact .inr ⟨_, hc, hrecords, ⟨_, hentry, h⟩, rfl⟩

/-- Some error or other, without saying which. -/
theorem exists_fails_iff :
    (∃ e, b.Fails p tx e) ↔
      ¬tx.Sound ∨ ¬SoundAmounts ((b.wallet.ownCoins tx).map (·.value)) ∨
        ∃ c entry, classify b.wallet.view p tx = .ok c ∧ c.records ≠ [] ∧
          b.chain.entry? tx.hash = some entry ∧ entry.Misplaced := by
  constructor
  · rintro ⟨e, hv | ⟨_, hv⟩ | ⟨hc, hrecords, hentry, h⟩⟩
    · exact .inl (exists_firstFault_iff.mp ⟨_, hv⟩)
    · exact .inr (.inl (exists_firstUnsound_iff.mp ⟨_, hv⟩))
    · exact .inr (.inr ⟨_, _, hc, hrecords, hentry, h⟩)
  · intro h
    by_cases hsound : tx.Sound
    · rcases h with h | h | ⟨c, entry, hc, hrecords, hentry, h⟩
      · exact absurd hsound h
      · obtain ⟨v, hv⟩ := exists_firstUnsound_iff.mpr h
        exact ⟨_, .spends hsound hv⟩
      · exact ⟨_, .block hc hrecords hentry h⟩
    · obtain ⟨v, hv⟩ := exists_firstFault_iff.mpr hsound
      exact ⟨_, .amounts hv⟩

/-- **A report fails with the first transaction that makes it fail, and for no other reason.** The
unknown output of an input is not among the errors, and what is hidden does not matter. -/
theorem report_error_iff (b : Bundle) (p : Params) :
    ((∃ e, b.report p = .error e) ↔
      ∃ tx ∈ b.transactions, (tx.isCoinbase → b.chain.view.inBestChain tx) ∧
        (¬tx.Sound ∨ ¬SoundAmounts ((b.wallet.ownCoins tx).map (·.value)) ∨
          ∃ c entry, classify b.wallet.view p tx = .ok c ∧ c.records ≠ [] ∧
            b.chain.entry? tx.hash = some entry ∧ entry.Misplaced)) ∧
    (∀ e, b.report p = .error e ↔
      ∃ before tx after, b.shown = before ++ tx :: after ∧
        (∀ t ∈ before, ∀ e', ¬b.Fails p t e') ∧ b.Fails p tx e) ∧
    (∀ place, b.report p ≠ .error (.missingPrevout place)) ∧
    { b with transactions := b.shown }.report p = b.report p := by
  have hfirst : ∀ e, b.report p = .error e ↔
      ∃ before tx after, b.shown = before ++ tx :: after ∧
        (∀ t ∈ before, ∀ e', ¬b.Fails p t e') ∧ b.Fails p tx e := fun e => by
    rw [report_eq_error_iff, mapM_eq_error_iff]
    simp only [ne_eq, partOf_eq_error_iff_fails]
  refine ⟨?_, hfirst, fun place h => ?_, ?_⟩
  · simp only [report_eq_error_iff, exists_mapM_eq_error_iff, partOf_eq_error_iff_fails,
      exists_fails_iff, mem_shown_iff, ChainView.shows_iff, and_assoc]
  · obtain ⟨_, tx, _, _, _, hfails⟩ := (hfirst _).mp h
    cases hfails
  · have hshown : { b with transactions := b.shown }.shown = b.shown := by
      simp [shown, List.filter_filter]
    rw [report_eq, report_eq, hshown]
    rfl

end Bundle

end ShieldedLedger
