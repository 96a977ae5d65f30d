import ShieldedLedger.Proofs.Rule
import ShieldedLedger.Snapshot

/-!
# Which transactions concern the wallet

A transaction concerns the wallet if the wallet owns an input or an output of it, if it decrypted
one of its shielded outputs, or if the search for notes finds that the wallet takes part in it.
Everything else is passed over, with a notice that nothing in it is the wallet's.

The search for notes is meant to be the third of these reasons, but it never decides. It reports a
part of the wallet only where shielded outputs were decrypted, which is a reason of its own. So the
notice is wrong in one case: the wallet owns notes that the transaction created, decrypted none of
its outputs and has no part in its transparent side.

## Main definitions

* `WalletView.Uninvolved` — nothing in a transaction is the wallet's, on either side

## Main results

* `WalletView.concerns_eq` — the search for notes does not decide
* `Rule.notRelevant_notMem_notices` — no rule calls a transaction irrelevant
* `notRelevant_iff` — which transactions are called irrelevant, and when that is so
-/

namespace ShieldedLedger

variable {w : WalletView} {tx : Transaction} {p : Params}

/-! ### Concern -/

/-- Notes count as the wallet's only together with decrypted outputs. -/
theorem Resolution.hasNoteData_of_isOwned_find (h : (Resolution.find w tx).isOwned) :
    tx.hasNoteData := by
  rw [Resolution.find] at h
  by_cases hplain : Shape.of tx = .plain
  · rw [if_pos hplain] at h
    cases h
  · rw [if_neg hplain] at h
    -- both ways to decrypt nothing resolve to something else than owned notes
    cases hdata : tx.hasNoteData with
    | true => rfl
    | false =>
      rw [hdata] at h
      cases hnotes : w.notesOf tx.hash <;> rw [hnotes] at h <;> cases h

namespace WalletView

/-- **The search for notes does not decide** whether a transaction concerns the wallet. -/
theorem concerns_eq (w : WalletView) (tx : Transaction) :
    w.concerns tx = (w.ownsAny tx || tx.hasNoteData) := by
  have hredundant : (Resolution.find w tx).isOwned → (w.ownsAny tx || tx.hasNoteData) := by
    intro howned
    rw [Resolution.hasNoteData_of_isOwned_find howned, Bool.or_true]
  rw [concerns]
  cases howned : (Resolution.find w tx).isOwned with
  | false => exact Bool.or_false _
  | true => rw [hredundant howned, Bool.or_true]

theorem ownsAny_eq_false_iff :
    w.ownsAny tx = false ↔
      (∀ i ∈ tx.inputs, ¬(w.inputOwnership i).isMine) ∧
        ∀ out ∈ tx.outputs, ¬(w.outputOwnership out).isMine := by
  rw [ownsAny, Bool.or_eq_false_iff, List.any_eq_false, List.any_eq_false]

theorem not_concerns_iff :
    ¬w.concerns tx ↔
      (∀ i ∈ tx.inputs, ¬(w.inputOwnership i).isMine) ∧
        (∀ out ∈ tx.outputs, ¬(w.outputOwnership out).isMine) ∧ tx.noteData = [] := by
  rw [concerns_eq, Bool.not_eq_true, Bool.or_eq_false_iff, ownsAny_eq_false_iff, and_assoc]
  simp [Transaction.hasNoteData]

theorem concerns_of_hasNoteData (h : tx.hasNoteData) : w.concerns tx := by
  rw [concerns_eq, h, Bool.or_true]

theorem not_mine_of_not_concerns (h : ¬w.concerns tx) :
    (∀ i ∈ tx.inputs, ¬(w.inputOwnership i).isMine) ∧ w.ownedOutputs tx = [] := by
  obtain ⟨hin, hout, _⟩ := not_concerns_iff.mp h
  exact ⟨hin, List.filter_eq_nil_iff.mpr hout⟩

/-- Nothing in a transaction is the wallet's: it owns no input, no output and, if the transaction
uses the pool, no note that it created. -/
structure Uninvolved (w : WalletView) (tx : Transaction) : Prop where
  /-- No input is the wallet's. -/
  inputs : ∀ i ∈ tx.inputs, ¬(w.inputOwnership i).isMine
  /-- No output is. -/
  outputs : ∀ out ∈ tx.outputs, ¬(w.outputOwnership out).isMine
  /-- And no note is. -/
  notes : tx.hasShielded → w.notesOf tx.hash = []

end WalletView

/-! ### The notice -/

/-- No rule calls a transaction irrelevant. -/
theorem Rule.notRelevant_notMem_notices (rule : Rule) (t : Totals) :
    Notice.notRelevant ∉ (rule.decomposition w tx p t).notices := by
  have hnotes : ∀ count, Notice.notRelevant ∉ noteNotices count := by
    intro count
    rw [noteNotices]
    split <;> simp
  cases rule with
  | transparent =>
    rw [decomposition, ShieldedLedger.transparent]
    split_ifs <;> simp
  | noteReceipt => exact hnotes _
  | shieldedSend => exact hnotes _
  | poolDeposit => exact List.not_mem_nil
  | poolWithdrawal => exact List.not_mem_nil

variable {c : Classification}

theorem notRelevant_mem_notices_iff (hc : classify w p tx = .ok c) :
    .notRelevant ∈ c.notices ↔ ¬w.concerns tx := by
  obtain ⟨_, _, _, rfl⟩ := classify_eq_ok_iff.mp hc
  rw [classification_notices]
  split
  · next h => exact iff_of_false (Rule.notRelevant_notMem_notices _ _) (not_not_intro h)
  · next h => exact iff_of_true List.mem_cons_self h

/-- A transaction that is passed over has no records, and no other notice. -/
theorem classification_of_not_concerns (hc : classify w p tx = .ok c) (h : ¬w.concerns tx) :
    c.records = [] ∧ c.notices = [.notRelevant] := by
  obtain ⟨_, _, _, rfl⟩ := classify_eq_ok_iff.mp hc
  rw [classification_records, classification_notices, if_neg h, if_neg h]
  exact ⟨rfl, rfl⟩

/-- **A transaction is called irrelevant if the wallet owns no input and no output and decrypted
nothing.** Whether it owns notes of the transaction is not asked, so the notice can be trusted just
for the transactions with notes of the wallet that it takes part in, or decrypted something of. -/
theorem notRelevant_iff (hc : classify w p tx = .ok c) :
    (.notRelevant ∈ c.notices ↔
      (∀ i ∈ tx.inputs, ¬(w.inputOwnership i).isMine) ∧
        (∀ out ∈ tx.outputs, ¬(w.outputOwnership out).isMine) ∧ tx.noteData = []) ∧
    (.notRelevant ∈ c.notices → c.records = [] ∧ c.notices = [.notRelevant]) ∧
    ((.notRelevant ∈ c.notices → w.Uninvolved tx) ↔
      (tx.hasShielded → w.notesOf tx.hash ≠ [] → w.ownsAny tx ∨ tx.hasNoteData)) := by
  have hmem := notRelevant_mem_notices_iff hc
  refine ⟨hmem.trans WalletView.not_concerns_iff,
    fun h => classification_of_not_concerns hc (hmem.mp h), ?_⟩
  rw [hmem]
  constructor
  · intro h hshielded hnotes
    refine Bool.or_eq_true_iff.mp ?_
    rw [← WalletView.concerns_eq]
    by_contra hconcerns
    exact hnotes ((h hconcerns).notes hshielded)
  · intro h hconcerns
    obtain ⟨hin, hout, _⟩ := WalletView.not_concerns_iff.mp hconcerns
    refine ⟨hin, hout, fun hshielded => ?_⟩
    by_contra hnotes
    have hpart : (w.ownsAny tx || tx.hasNoteData) = true :=
      Bool.or_eq_true_iff.mpr (h hshielded hnotes)
    rw [← WalletView.concerns_eq] at hpart
    exact hconcerns hpart

/-- A transaction that is shielded on both sides. -/
def Transaction.sampleShielded (noteData : List NotePosition) : Transaction :=
  { Transaction.blank ⟨List.replicate 32 3, rfl⟩ 0 with shielded := [⟨0, 0, []⟩], noteData }

/-- A wallet that can spend a note which the transaction created. -/
def WalletSnapshot.sampleHolder : WalletSnapshot :=
  empty.addNote "z" ⟨(Transaction.sampleShielded []).hash, 65, 1⟩

/-- The transaction is passed over unless the wallet decrypted its note. -/
theorem notRelevant_iff_sampleShielded :
    (∃ c, classify WalletSnapshot.sampleHolder.view .standard (.sampleShielded []) = .ok c ∧
      .notRelevant ∈ c.notices ∧ c.records = []) ∧
    ∃ c, classify WalletSnapshot.sampleHolder.view .standard (.sampleShielded [⟨0, 0⟩]) = .ok c ∧
      .notRelevant ∉ c.notices := by
  have hc : classify WalletSnapshot.sampleHolder.view .standard (.sampleShielded []) = .ok _ := rfl
  have hc' : classify WalletSnapshot.sampleHolder.view .standard (.sampleShielded [⟨0, 0⟩]) =
      .ok _ := rfl
  have hpassed := (notRelevant_iff hc).1.mpr ⟨nofun, nofun, rfl⟩
  refine ⟨⟨_, hc, hpassed, ((notRelevant_iff hc).2.1 hpassed).1⟩, _, hc', fun h => ?_⟩
  exact absurd ((notRelevant_iff hc').1.mp h).2.2 (by decide)

/-- The wallet is told that nothing in the transaction is its own, although it owns a note of it. -/
theorem exists_notRelevant_not_uninvolved :
    ∃ c, classify WalletSnapshot.sampleHolder.view .standard (.sampleShielded []) = .ok c ∧
      .notRelevant ∈ c.notices ∧
      ¬WalletSnapshot.sampleHolder.view.Uninvolved (.sampleShielded []) :=
  ⟨_, rfl, List.mem_cons_self, fun h => absurd (h.notes rfl) (by decide)⟩

end ShieldedLedger
