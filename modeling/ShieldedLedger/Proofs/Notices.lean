import ShieldedLedger.Proofs.Debit
import ShieldedLedger.Proofs.Kinds

/-!
# Notices and records

A classification says what it found in two ways, by records and by a notice. This file lists the
stories the two can tell together: nothing is the wallet's, only a net is known, several notes
arrived, or there is nothing to remark. They exclude each other, so a transaction has at most one
notice, and each can be recognised from the records and from the notices alike.

That only the first story has no records rests on the sums: a gain comes from an output, and a
payment goes to one. A block reward that pays nothing to the wallet is the exception.

## Main definitions

* `WalletView.HasSeveralNotes` — several notes of the wallet came from a transaction
* `Story` — what records and notices tell together

## Main results

* `story_of_classify` — every classification tells one of the stories
* `notices_correspond` — what follows for the notices and the records
-/

namespace ShieldedLedger

variable {w : WalletView} {tx : Transaction} {p : Params} {t : Totals}

/-! ### Which rules read notes -/

/-- The wallet decrypted outputs of the transaction, and owns more than one of its notes. -/
structure WalletView.HasSeveralNotes (w : WalletView) (tx : Transaction) : Prop where
  /-- The transaction uses the pool. -/
  shielded : tx.shielded ≠ []
  /-- The wallet decrypted some output of it. -/
  noteData : tx.noteData ≠ []
  /-- It found several notes of its own. -/
  several : 2 ≤ (w.resolve tx.hash).length

theorem Transaction.hasShielded_iff : tx.hasShielded ↔ tx.shielded ≠ [] := by
  simp [hasShielded]

theorem Transaction.hasNoteData_iff : tx.hasNoteData ↔ tx.noteData ≠ [] := by
  simp [hasNoteData]

theorem WalletView.length_resolve (w : WalletView) (txid : TxHash) :
    (w.resolve txid).length = (w.notesOf txid).length := by
  rw [resolve, NoteMatches.length, NoteMatches.toList_ofList]

theorem Shape.of_eq_shieldedOut_iff :
    Shape.of tx = .shieldedOut ↔ tx.hasShielded ∧ tx.inputs = [] ∧ tx.outputs ≠ [] := by
  rw [Shape.of]
  cases tx.hasShielded <;> cases tx.inputs <;> cases tx.outputs <;> simp

theorem Rule.of_eq_shieldedSend_iff :
    Rule.of w tx = .shieldedSend ↔
      tx.hasShielded ∧ tx.hasNoteData ∧ w.notesOf tx.hash ≠ [] ∧ tx.inputs = [] ∧
        tx.outputs ≠ [] := by
  rw [Rule.of]
  split_ifs <;> simp_all

/-- Several notes are read as a receipt or as a payment out of the pool. -/
theorem WalletView.HasSeveralNotes.rule (h : w.HasSeveralNotes tx) :
    Rule.of w tx = .noteReceipt ∨ Rule.of w tx = .shieldedSend := by
  have hshielded := Transaction.hasShielded_iff.mpr h.shielded
  have hdata := Transaction.hasNoteData_iff.mpr h.noteData
  have hnotes : w.notesOf tx.hash ≠ [] := by
    intro hnil
    have hseveral := h.several
    rw [length_resolve, hnil] at hseveral
    exact absurd hseveral (by decide)
  by_cases hout : tx.inputs = [] → tx.outputs = []
  · exact .inl (Rule.of_eq_noteReceipt_iff.mpr ⟨hshielded, hdata, hnotes, hout⟩)
  · rw [Classical.not_imp] at hout
    exact .inr (Rule.of_eq_shieldedSend_iff.mpr ⟨hshielded, hdata, hnotes, hout⟩)

/-! ### The stories -/

/-- What the records and the notices of a transaction tell together. -/
inductive Story (w : WalletView) (tx : Transaction) : List Record → List Notice → Prop where
  /-- Nothing is the wallet's. -/
  | passedOver (h : ¬w.concerns tx) : Story w tx [] [.notRelevant]
  /-- Only the net is known. -/
  | netOnly {r : Record} (h : w.NetsOnly tx (w.totals tx)) (hfew : ¬w.HasSeveralNotes tx)
    (hkind : r.kind = .mixed) (hdebit : r.debit = (w.totals tx).net) (hcredit : r.credit = 0) :
    Story w tx [r] [.degradedToMixed (w.totals tx).net]
  /-- Several notes came from the transaction. -/
  | severalNotes {records : List Record} (h : w.HasSeveralNotes tx)
    (hlength : records.length =
      if Shape.of tx = .shieldedOut then 1 else (w.resolve tx.hash).length)
    (hkind : ∀ r ∈ records, r.kind ≠ .mixed) :
    Story w tx records [.severalNotes (w.resolve tx.hash).length]
  /-- There is nothing to remark. -/
  | unremarked {records : List Record} (hfew : ¬w.HasSeveralNotes tx)
    (hkind : ∀ r ∈ records, r.kind ≠ .mixed)
    (hne : tx.isCoinbase = false → records ≠ []) : Story w tx records []

theorem Record.ofMovements_ne_nil {ms : List Movement} (h : ms ≠ []) : ofMovements tx ms ≠ [] := by
  rw [← List.length_pos_iff, length_ofMovements, List.length_pos_iff]
  exact h

/-- Records of which none is mixed need no remark, unless there are several notes. -/
theorem story_of_no_mixed {ms : List Movement} (hfew : ¬w.HasSeveralNotes tx)
    (hkind : ∀ m ∈ ms, m.kind ≠ .mixed) (hne : tx.isCoinbase = false → ms ≠ []) :
    Story w tx (Record.ofMovements tx ms) [] :=
  .unremarked hfew (Record.kind_ofMovements (P := (· ≠ .mixed)) hkind)
    fun hcoinbase => Record.ofMovements_ne_nil (hne hcoinbase)

/-- A rule that reads notes tells how many there are, if there are several. -/
theorem story_of_noteNotices {ms : List Movement} (hshielded : tx.hasShielded)
    (hdata : tx.hasNoteData)
    (hlength : ms.length = if Shape.of tx = .shieldedOut then 1 else (w.notesOf tx.hash).length)
    (hkind : ∀ m ∈ ms, m.kind ≠ .mixed) (hne : ms ≠ []) :
    Story w tx (Record.ofMovements tx ms) (noteNotices (w.notesOf tx.hash).length) := by
  rw [noteNotices]
  rw [← w.length_resolve] at hlength ⊢
  split
  · next hseveral =>
    have h : w.HasSeveralNotes tx := ⟨Transaction.hasShielded_iff.mp hshielded,
      Transaction.hasNoteData_iff.mp hdata, hseveral⟩
    exact .severalNotes h ((Record.length_ofMovements tx ms).trans hlength)
      (Record.kind_ofMovements (P := (· ≠ .mixed)) hkind)
  · next hfew => exact story_of_no_mixed (fun h => hfew h.several) hkind fun _ => hne

/-- The transparent rule tells of a net, or has nothing to remark. -/
theorem story_of_transparent (hfew : ¬w.HasSeveralNotes tx) (hdebit : 0 ≤ (w.totals tx).debit) :
    Story w tx (Record.ofMovements tx (transparent w tx (w.totals tx)).movements)
      (transparent w tx (w.totals tx)).notices := by
  have hne : tx.isCoinbase = false → (transparent w tx (w.totals tx)).movements ≠ [] :=
    fun hcoinbase => movements_transparent_ne_nil hcoinbase hdebit
  have hkind : ∀ m ∈ (transparent w tx (w.totals tx)).movements, ¬w.NetsOnly tx (w.totals tx) →
      m.kind ≠ .mixed := by
    intro m hm hnet hmixed
    have hm' : m ∈ (Rule.transparent.decomposition w tx .standard (w.totals tx)).movements := hm
    exact hnet ((Rule.kind_eq_mixed_iff hm').mp hmixed).2
  have hreading := reading_transparent w tx (w.totals tx)
  generalize transparent w tx (w.totals tx) = d at hne hkind hreading ⊢
  have hlisted (hnet : ¬w.NetsOnly tx (w.totals tx)) :
      Story w tx (Record.ofMovements tx d.movements) [] :=
    story_of_no_mixed hfew (fun m hm => hkind m hm hnet) hne
  cases hreading with
  | receipt hgain => exact hlisted fun hnet => hnet.1 hgain
  | selfTransfer _ hin => exact hlisted fun hnet => hnet.2 hin
  | payment _ hin => exact hlisted fun hnet => hnet.2 hin
  | netOnly hnet => exact .netOnly hnet hfew rfl rfl rfl

theorem length_receiptMovements (kind : RecordKind) (notes : List Note) (debit change : Int) :
    (receiptMovements kind notes debit change).length = notes.length := by
  rw [receiptMovements, List.length_modifyHead, List.length_map]

/-- Each rule tells one of the stories. -/
theorem story_of_rule (hdebit : 0 ≤ (w.totals tx).debit) :
    Story w tx
      (Record.ofMovements tx ((Rule.of w tx).decomposition w tx p (w.totals tx)).movements)
      ((Rule.of w tx).decomposition w tx p (w.totals tx)).notices := by
  have hkind : ∀ m ∈ ((Rule.of w tx).decomposition w tx p (w.totals tx)).movements,
      Rule.of w tx ≠ .transparent → m.kind ≠ .mixed := fun m hm hrule hmixed =>
    hrule ((Rule.kind_eq_mixed_iff hm).mp hmixed).1
  have hfew (hreceipt : Rule.of w tx ≠ .noteReceipt) (hsend : Rule.of w tx ≠ .shieldedSend) :
      ¬w.HasSeveralNotes tx := fun h => h.rule.elim hreceipt hsend
  cases hrule : Rule.of w tx with
  | transparent => exact story_of_transparent (hfew (by simp [hrule]) (by simp [hrule])) hdebit
  | noteReceipt =>
    obtain ⟨hshielded, hdata, hnotes, hout⟩ := Rule.of_eq_noteReceipt_iff.mp hrule
    have hshape : Shape.of tx ≠ .shieldedOut := fun hshape => by
      obtain ⟨_, hin, hne⟩ := Shape.of_eq_shieldedOut_iff.mp hshape
      exact hne (hout hin)
    rw [hrule] at hkind
    refine story_of_noteNotices hshielded hdata ?_ (fun m hm => hkind m hm nofun)
      (receiptMovements_ne_nil hnotes _ _)
    rw [if_neg hshape]
    exact length_receiptMovements _ _ _ _
  | shieldedSend =>
    obtain ⟨hshielded, hdata, _, hin, hout⟩ := Rule.of_eq_shieldedSend_iff.mp hrule
    have hshape := Shape.of_eq_shieldedOut_iff.mpr ⟨hshielded, hin, hout⟩
    rw [hrule] at hkind
    exact story_of_noteNotices hshielded hdata (if_pos hshape).symm
      (fun m hm => hkind m hm nofun) (List.cons_ne_nil _ _)
  | poolDeposit =>
    rw [hrule] at hkind
    exact story_of_no_mixed (hfew (by simp [hrule]) (by simp [hrule]))
      (fun m hm => hkind m hm nofun) fun _ => List.cons_ne_nil _ _
  | poolWithdrawal =>
    rw [hrule] at hkind
    exact story_of_no_mixed (hfew (by simp [hrule]) (by simp [hrule]))
      (fun m hm => hkind m hm nofun) fun _ => List.cons_ne_nil _ _

variable {c : Classification}

/-- **Every classification tells one of the stories.** -/
theorem story_of_classify (hc : classify w p tx = .ok c) : Story w tx c.records c.notices := by
  obtain ⟨_, _, hspent, rfl⟩ := classify_eq_ok_iff.mp hc
  rw [classification_records, classification_notices]
  split_ifs with hconcerns
  · exact story_of_rule hspent.total_nonneg
  · exact .passedOver hconcerns

/-! ### What the stories have in common -/

namespace Story

variable {records : List Record} {notices : List Notice}

theorem length_notices_le (h : Story w tx records notices) : notices.length ≤ 1 := by
  cases h <;> simp

/-- A mixed record is told by a notice, and only such a record is. -/
theorem exists_mixed_iff (h : Story w tx records notices) :
    (∃ r ∈ records, r.kind = .mixed) ↔ ∃ net, notices = [.degradedToMixed net] := by
  cases h with
  | passedOver => simp
  | netOnly _ _ hkind => simp [hkind]
  | severalNotes _ _ hkind => simpa using hkind
  | unremarked _ hkind => simpa using hkind

/-- The notice of a net belongs to the only record, which takes the net as its debit. -/
theorem of_degradedToMixed {net : Int} (h : Story w tx records [.degradedToMixed net]) :
    w.NetsOnly tx (w.totals tx) ∧ net = (w.totals tx).net ∧
      ∃ r, records = [r] ∧ r.kind = .mixed ∧ r.debit = net ∧ r.credit = 0 := by
  cases h with
  | @netOnly r h _ hkind hdebit hcredit => exact ⟨h, rfl, r, rfl, hkind, hdebit, hcredit⟩

theorem eq_severalNotes_iff (h : Story w tx records notices) {count : Nat} :
    notices = [.severalNotes count] ↔
      w.HasSeveralNotes tx ∧ (w.resolve tx.hash).length = count := by
  cases h with
  | passedOver h =>
    have hdata := (WalletView.not_concerns_iff.mp h).2.2
    exact iff_of_false (by simp) fun hseveral => hseveral.1.noteData hdata
  | netOnly _ hfew => exact iff_of_false (by simp) fun hseveral => hfew hseveral.1
  | severalNotes h => simp [h]
  | unremarked hfew => exact iff_of_false (by simp) fun hseveral => hfew hseveral.1

theorem length_records_of_severalNotes {count : Nat}
    (h : Story w tx records [.severalNotes count]) :
    records.length = if Shape.of tx = .shieldedOut then 1 else count := by
  cases h with
  | severalNotes _ hlength => exact hlength

/-- Only what is passed over leaves no record. -/
theorem records_eq_nil_iff (h : Story w tx records notices) (hcoinbase : tx.isCoinbase = false) :
    records = [] ↔ notices = [.notRelevant] := by
  cases h with
  | passedOver => simp
  | netOnly => simp
  | severalNotes h hlength =>
    refine iff_of_false (fun hnil => ?_) (by simp)
    have hseveral := h.several
    rw [hnil, List.length_nil] at hlength
    split_ifs at hlength
    omega
  | unremarked _ _ hne => exact iff_of_false (hne hcoinbase) (by simp)

end Story

/-- **Notices and records tell the same story.** There is at most one notice. The notice of a net
belongs to a mixed record, which is then the only one; the notice of several notes is given just if
there are several, and then there is one record for each, unless they were spent; and but for block
rewards, what has no record is what is passed over. -/
theorem notices_correspond (hc : classify w p tx = .ok c) :
    c.notices.length ≤ 1 ∧
    ((∃ r ∈ c.records, r.kind = .mixed) ↔ ∃ net, c.notices = [.degradedToMixed net]) ∧
    (∀ net, c.notices = [.degradedToMixed net] →
      (∃ r, c.records = [r] ∧ r.kind = .mixed ∧ r.debit = net ∧ r.credit = 0) ∧
      net = (w.totals tx).credit - (w.totals tx).debit ∧ net ≤ 0 ∧
      ¬(tx.inputs ≠ [] ∧ ∀ i ∈ tx.inputs, (w.inputOwnership i).isMine)) ∧
    (∀ count, c.notices = [.severalNotes count] ↔
      tx.shielded ≠ [] ∧ tx.noteData ≠ [] ∧ (w.resolve tx.hash).length = count ∧ 2 ≤ count) ∧
    (∀ count, c.notices = [.severalNotes count] →
      c.records.length = if Shape.of tx = .shieldedOut then 1 else count) ∧
    (tx.isCoinbase = false → (c.records = [] ↔ c.notices = [.notRelevant])) := by
  have hstory := story_of_classify hc
  refine ⟨hstory.length_notices_le, hstory.exists_mixed_iff, fun net hnet => ?_, fun count => ?_,
    fun count hcount => ?_, hstory.records_eq_nil_iff⟩
  · rw [hnet] at hstory
    obtain ⟨⟨hgain, hin⟩, rfl, hrecord⟩ := hstory.of_degradedToMixed
    refine ⟨hrecord, rfl, ?_, fun hall => hin (WalletView.ownsAllInputs_iff.mpr hall)⟩
    exact Int.not_lt.mp fun hpos => hgain (.inl hpos)
  · rw [hstory.eq_severalNotes_iff]
    constructor
    · rintro ⟨⟨hshielded, hdata, hseveral⟩, rfl⟩
      exact ⟨hshielded, hdata, rfl, hseveral⟩
    · rintro ⟨hshielded, hdata, rfl, hseveral⟩
      exact ⟨⟨hshielded, hdata, hseveral⟩, rfl⟩
  · rw [hcount] at hstory
    exact hstory.length_records_of_severalNotes

/-- A payment of 150, to which the wallet and somebody else contribute. -/
def Transaction.sampleJoint : Transaction :=
  { Transaction.blank ⟨List.replicate 32 21, rfl⟩ 0 with
    inputs := [⟨⟨⟨List.replicate 32 22, rfl⟩, 0⟩⟩, ⟨⟨⟨List.replicate 32 22, rfl⟩, 1⟩⟩]
    outputs := [⟨150, .address "other"⟩] }

/-- The wallet that contributes 100 to it. -/
def WalletSnapshot.sampleContributor : WalletSnapshot :=
  (empty.own "mine" .spendable).addCoin ⟨⟨List.replicate 32 22, rfl⟩, 0⟩ ⟨100, .address "mine"⟩

/-- The joint payment is recorded by its net, and two notes of one transaction by two records. -/
theorem notices_correspond_samples :
    (∃ c, classify WalletSnapshot.sampleContributor.view .standard .sampleJoint = .ok c ∧
      c.notices = [.degradedToMixed (-100)] ∧ ∃ r, c.records = [r] ∧ r.debit = -100) ∧
    ∃ c, classify (WalletSnapshot.sampleHolder.addNote "z"
          ⟨(Transaction.sampleShielded []).hash, 20, 1⟩).view .standard
        (.sampleShielded [⟨0, 0⟩]) = .ok c ∧
      c.notices = [.severalNotes 2] ∧ c.records.length = 2 := by
  have hc : classify WalletSnapshot.sampleContributor.view .standard .sampleJoint = .ok _ := rfl
  have hc' : classify (WalletSnapshot.sampleHolder.addNote "z"
      ⟨(Transaction.sampleShielded []).hash, 20, 1⟩).view .standard
        (.sampleShielded [⟨0, 0⟩]) = .ok _ := rfl
  obtain ⟨⟨r, hrecords, _, hdebit, _⟩, _⟩ := (notices_correspond hc).2.2.1 (-100) rfl
  have hlength := (notices_correspond hc').2.2.2.2.1 2 rfl
  exact ⟨⟨_, hc, rfl, r, hrecords, hdebit⟩, _, hc', rfl, hlength⟩

end ShieldedLedger
