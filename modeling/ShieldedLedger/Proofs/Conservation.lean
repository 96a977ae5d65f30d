import ShieldedLedger.Proofs.Bounds

/-!
# Conservation of value

The records of a transaction ought to add up to the change in the wallet's value. This file says how
far each rule keeps to that.

The transparent rule does, with one exception. A payment is charged with a positive fee and with a
positive deposit into the pool, but nothing is credited where either of them is negative, so a
payment out of value that is not the wallet's falls short by just that much.

The rules for the pool do not. A receipt of notes takes the change out of the debit and out of the
credit as well, so all owned outputs drop out of the sum, and a deposit is valued by what enters the
pool instead of by what the wallet spent. Only withdrawals, and receipts without owned outputs, add
up as they should. And a receipt does so only as long as words can hold it: no check looks at the
amount of a note, and the owned inputs are taken off the first one.

## Main definitions

* `WalletView.Pays`, `shortfall` — the one case in which the transparent rule is not exact
* `WalletView.visibleNet` — the change in the wallet's value, notes included
* `WalletView.ReceiptFits` — words can hold what a receipt records

## Main results

* `transparent_net_eq` — what the transparent rule adds up to
* `net_of_noteReceipt` — what a receipt of notes adds up to, whatever the notes hold
* `pool_net_eq` — what the rules for the pool add up to, and when that is the visible net
-/

namespace ShieldedLedger

variable {w : WalletView} {tx : Transaction}

/-! ### The transparent rule -/

/-- The wallet pays: all inputs are its own, somebody else is paid, and nothing is gained. -/
structure WalletView.Pays (w : WalletView) (tx : Transaction) : Prop where
  /-- There are inputs. -/
  inputs_ne_nil : tx.inputs ≠ []
  /-- All of them are the wallet's. -/
  ownsInputs : ∀ i ∈ tx.inputs, (w.inputOwnership i).isMine
  /-- Some output is somebody else's. -/
  foreign : ∃ out ∈ tx.outputs, ¬(w.outputOwnership out).isMine
  /-- The owned outputs are worth no more than the owned inputs. -/
  credit_le : (w.totals tx).credit ≤ (w.totals tx).debit

/-- What a payment falls short by: a negative fee and a negative deposit are not credited. -/
def shortfall (w : WalletView) (tx : Transaction) : Int :=
  min ((w.totals tx).observedFee tx) 0 + min (tx.poolIn - tx.poolOut) 0

/-- A payment lists what others are paid. -/
theorem transparent_of_pays (hcoinbase : tx.isCoinbase = false) (h : w.Pays tx) :
    (transparent w tx (w.totals tx)).movements = debitMovements w tx (w.totals tx) := by
  have hgain : ¬(0 < (w.totals tx).net ∨ tx.isCoinbase) := by
    have := h.credit_le
    rw [hcoinbase, Totals.net]
    simp only [Bool.false_eq_true, or_false]
    omega
  have hin : w.ownsAllInputs tx := WalletView.ownsAllInputs_iff.mpr ⟨h.inputs_ne_nil, h.ownsInputs⟩
  have hout : ¬w.ownsAllOutputs tx := by
    intro hall
    obtain ⟨out, hmem, hforeign⟩ := h.foreign
    exact hforeign (WalletView.ownsAllOutputs_iff.mp hall out hmem)
  rw [transparent, if_neg hgain, if_pos hin, if_neg hout]

/-- A payment is exact up to its shortfall. -/
theorem netOf_transparent_of_pays (hcoinbase : tx.isCoinbase = false) (h : w.Pays tx) :
    netOf (transparent w tx (w.totals tx)).movements = (w.totals tx).net + shortfall w tx := by
  rw [transparent_of_pays hcoinbase h,
    netOf_debitMovements _ (WalletView.foreignOutputs_ne_nil_iff.mpr h.foreign), shortfall,
    Totals.observedFee, Totals.net, tx.valueOut_eq w]
  omega

/-- Where the wallet does not pay, the transparent rule is exact. -/
theorem netOf_transparent_of_not_pays (hdebit : 0 ≤ (w.totals tx).debit)
    (hcoinbase : tx.isCoinbase = false ∨ ∀ i ∈ tx.inputs, ¬(w.inputOwnership i).isMine)
    (h : ¬w.Pays tx) :
    netOf (transparent w tx (w.totals tx)).movements = (w.totals tx).net := by
  have hreading := reading_transparent w tx (w.totals tx)
  generalize transparent w tx (w.totals tx) = d at hreading ⊢
  cases hreading with
  | receipt hgain =>
    -- without an owned output there is no receipt that could carry the debit
    by_cases howned : w.ownedOutputs tx = []
    · have hcredit := WalletView.credit_eq_zero howned
      have hzero : (w.totals tx).debit = 0 := by
        rcases hcoinbase with hno | hforeign
        · rw [hno, Totals.net] at hgain
          simp only [Bool.false_eq_true, or_false] at hgain
          omega
        · exact WalletView.debit_eq_zero hforeign
      rw [creditMovements, howned, Totals.net, hcredit, hzero]
      rfl
    · rw [netOf_creditMovements _ howned, Totals.net]
  | selfTransfer =>
    rw [netOf_cons, netOf_nil, gain_selfMovement, Int.add_zero]
  | payment hgain hin hout =>
    obtain ⟨hne, hall⟩ := WalletView.ownsAllInputs_iff.mp hin
    rw [not_or, Totals.net] at hgain
    have hforeign := WalletView.foreignOutputs_ne_nil_of_not_ownsAll hout
    exact absurd ⟨hne, hall, WalletView.foreignOutputs_ne_nil_iff.mp hforeign, by omega⟩ h
  | netOnly =>
    rw [netOf_cons, netOf_nil, gain_mixedMovement, Int.add_zero]

theorem WalletView.not_pays_of_not_concerns (h : ¬w.concerns tx) : ¬w.Pays tx := by
  intro hpays
  obtain ⟨i, hi⟩ := List.exists_mem_of_ne_nil _ hpays.inputs_ne_nil
  exact (not_mine_of_not_concerns h).1 i hi (hpays.ownsInputs i hi)

variable {p : Params} {c : Classification}

theorem net_of_not_pays (hc : classify w p tx = .ok c) (hrule : Rule.of w tx = .transparent)
    (hcoinbase : tx.isCoinbase = false ∨ ∀ i ∈ tx.inputs, ¬(w.inputOwnership i).isMine)
    (h : ¬w.Pays tx) : c.net = (w.totals tx).net := by
  obtain ⟨_, _, hspent, _⟩ := classify_eq_ok_iff.mp hc
  rw [net_of_ne_noteReceipt hc (hrule.trans_ne (by decide)), hrule]
  split
  · exact netOf_transparent_of_not_pays hspent.total_nonneg hcoinbase h
  · next hconcerns => exact (WalletView.net_eq_zero_of_not_concerns hconcerns).symm

theorem net_of_pays (hc : classify w p tx = .ok c) (hrule : Rule.of w tx = .transparent)
    (hcoinbase : tx.isCoinbase = false ∨ ∀ i ∈ tx.inputs, ¬(w.inputOwnership i).isMine)
    (h : w.Pays tx) : c.net = (w.totals tx).net + shortfall w tx := by
  have hno : tx.isCoinbase = false := by
    obtain ⟨i, hi⟩ := List.exists_mem_of_ne_nil _ h.inputs_ne_nil
    exact hcoinbase.resolve_right fun hforeign => hforeign i hi (h.ownsInputs i hi)
  rw [net_of_ne_noteReceipt hc (hrule.trans_ne (by decide)), hrule]
  split
  · exact netOf_transparent_of_pays hno h
  · next hconcerns => exact absurd h (WalletView.not_pays_of_not_concerns hconcerns)

/-- If all inputs are owned, the debit is what the inputs are worth. -/
theorem WalletView.debit_eq_worth {worth : TxInput → Int} {inputs : List TxInput}
    (hmine : ∀ i ∈ inputs, (w.inputOwnership i).isMine)
    (hworth : ∀ i ∈ inputs, (w.previousOutput i.prevout).map (·.value) = some (worth i)) :
    ((w.spentBy inputs).map (·.value)).sum = (inputs.map worth).sum := by
  induction inputs with
  | nil => rfl
  | cons i inputs ih =>
    obtain ⟨hi, hmine⟩ := List.forall_mem_cons.mp hmine
    obtain ⟨hvalue, hworth⟩ := List.forall_mem_cons.mp hworth
    obtain ⟨out, hout, hvalue⟩ := Option.map_eq_some_iff.mp hvalue
    rw [spentBy_cons_of_mine hi hout, List.map_cons, List.map_cons, List.sum_cons, List.sum_cons,
      ih hmine hworth, hvalue]

/-- A transaction that does not use the pool and creates no more than it spends has no shortfall. -/
theorem shortfall_eq_zero (hplain : Shape.of tx = .plain)
    (hle : tx.valueOut ≤ (w.totals tx).debit) : shortfall w tx = 0 := by
  have hnil : tx.shielded = [] := by
    have hshielded := Shape.of_eq_plain_iff.mp hplain
    simpa [Transaction.hasShielded] using hshielded
  have hin : tx.poolIn = 0 := by simp [Transaction.poolIn, hnil]
  have hout : tx.poolOut = 0 := by simp [Transaction.poolOut, hnil]
  rw [shortfall, Totals.observedFee, hin, hout]
  omega

/-- **The transparent rule conserves value, up to the shortfall of a payment.** In particular the
records of a transaction that does not use the pool, and does not create more than it spends, add up
to the change in the wallet's value. What an input is worth is known for owned inputs only, so the
latter is said for whatever the others are worth. -/
theorem transparent_net_eq (hc : classify w p tx = .ok c) (hrule : Rule.of w tx = .transparent)
    (hcoinbase : tx.isCoinbase = false ∨ ∀ i ∈ tx.inputs, ¬(w.inputOwnership i).isMine) :
    (¬w.Pays tx → c.net = (w.totals tx).credit - (w.totals tx).debit) ∧
    (w.Pays tx →
      c.net = (w.totals tx).credit - (w.totals tx).debit
        + min ((w.totals tx).debit + tx.poolOut - tx.valueOut - tx.poolIn) 0
        + min (tx.poolIn - tx.poolOut) 0) ∧
    ∀ worth : TxInput → Int,
      (∀ i ∈ tx.inputs, (w.inputOwnership i).isMine →
        (w.previousOutput i.prevout).map (·.value) = some (worth i)) →
      Shape.of tx = .plain → tx.isCoinbase = false →
      tx.valueOut ≤ (tx.inputs.map worth).sum →
        c.net = (w.totals tx).credit - (w.totals tx).debit := by
  refine ⟨net_of_not_pays hc hrule hcoinbase, fun h => ?_, fun worth hworth hplain hno hle => ?_⟩
  · rw [net_of_pays hc hrule hcoinbase h, shortfall, Totals.observedFee, Totals.net, Int.add_assoc]
  · by_cases h : w.Pays tx
    · have hdebit : (w.totals tx).debit = (tx.inputs.map worth).sum :=
        WalletView.debit_eq_worth h.ownsInputs fun i hi => hworth i hi (h.ownsInputs i hi)
      rw [net_of_pays hc hrule (.inl hno) h, shortfall_eq_zero hplain (hdebit ▸ hle), Totals.net,
        Int.add_zero]
    · exact net_of_not_pays hc hrule hcoinbase h

/-- The hash of the sample transactions. -/
def TxHash.sample : TxHash := ⟨List.replicate 32 0, rfl⟩

/-- A wallet that owns the empty script and the first output of every transaction, which holds
`coin`. It has received some notes at one address. -/
def WalletView.sample (coin : Int) (notes : List Note) : WalletView where
  inputOwnership i := if i.prevout.index = 0 then .spendable else .foreign
  outputOwnership out := if out.script = .raw [] then .spendable else .foreign
  isChange _ := true
  previousOutput _ := some ⟨coin, .raw []⟩
  spendingAddresses := ["z"]
  receivedNotes _ _ _ := notes

/-- A transaction that spends one output of the wallet, pays `paid` to somebody else and gives
`change` back. -/
def Transaction.samplePayment (paid change : Int) : Transaction :=
  { Transaction.blank .sample 0 with
    inputs := [⟨⟨.sample, 0⟩⟩]
    outputs := [⟨paid, .raw [1]⟩, ⟨change, .raw []⟩] }

/-- With a coin of 100 a payment of 150 with 30 back falls short by 80; with a coin of 200 the
records add up. -/
theorem transparent_net_eq_samplePayment :
    (∃ c, classify (.sample 100 []) .standard (.samplePayment 150 30) = .ok c ∧
      (WalletView.sample 100 []).Pays (.samplePayment 150 30) ∧ c.net = 30 - 100 + -80) ∧
    ∃ c, classify (.sample 200 []) .standard (.samplePayment 150 30) = .ok c ∧
      c.net = 30 - 200 := by
  have hpays : (WalletView.sample 100 []).Pays (.samplePayment 150 30) :=
    ⟨by decide, by decide, by decide, by decide⟩
  have hc : classify (.sample 100 []) .standard (.samplePayment 150 30) = .ok _ := rfl
  have hc' : classify (.sample 200 []) .standard (.samplePayment 150 30) = .ok _ := rfl
  refine ⟨⟨_, hc, hpays, ?_⟩, _, hc', ?_⟩
  · exact (transparent_net_eq hc rfl (.inl rfl)).2.1 hpays
  · exact (transparent_net_eq hc' rfl (.inl rfl)).2.2 (fun _ => 200) (by decide) rfl rfl
      (by decide)

/-! ### The rules for the pool -/

/-- What the wallet's notes of a transaction amount to. -/
def WalletView.shieldedCredit (w : WalletView) (tx : Transaction) : Int :=
  ((w.notesOf tx.hash).map (·.amount)).sum

/-- The change in the wallet's value, on both sides, as far as the wallet can see it. -/
def WalletView.visibleNet (w : WalletView) (tx : Transaction) : Int :=
  (w.totals tx).credit + w.shieldedCredit tx - (w.totals tx).debit

theorem WalletView.shieldedCredit_eq_zero (h : w.notesOf tx.hash = []) :
    w.shieldedCredit tx = 0 := by
  rw [shieldedCredit, h, List.map_nil, List.sum_nil]

theorem records_of_noteReceipt (hc : classify w p tx = .ok c)
    (hrule : Rule.of w tx = .noteReceipt) :
    c.records =
      Record.ofMovements tx (receiptMovements tx.receiptKind (w.notesOf tx.hash)
        (-((w.totals tx).debit - (w.totals tx).change)) (w.totals tx).change) := by
  obtain ⟨_, _, _, rfl⟩ := classify_eq_ok_iff.mp hc
  obtain ⟨_, hdata, _⟩ := Rule.of_eq_noteReceipt_iff.mp hrule
  rw [classification_records, if_pos (WalletView.concerns_of_hasNoteData hdata), hrule]
  rfl

/-- **A receipt adds up to the notes less the owned inputs, as far as words can hold it.** The
change cancels, and the owned inputs are taken off the first note, which may take that one out of
the range of a word. -/
theorem net_of_noteReceipt (hc : classify w p tx = .ok c) (hrule : Rule.of w tx = .noteReceipt)
    (hwords : ∀ note ∈ w.notesOf tx.hash, FitsWord note.amount) {first : Note}
    (hfirst : (w.notesOf tx.hash).head? = some first) :
    c.net = wrap (first.amount - (w.totals tx).debit) + (w.shieldedCredit tx - first.amount) := by
  obtain ⟨rest, hnotes⟩ := List.head?_eq_some_iff.mp hfirst
  have hrest : ∀ note ∈ rest, FitsWord note.amount :=
    fun note hnote => hwords note (hnotes ▸ List.mem_cons_of_mem first hnote)
  have hchange : first.amount
      + (-((w.totals tx).debit - (w.totals tx).change) - (w.totals tx).change) =
        first.amount - (w.totals tx).debit := by omega
  rw [Classification.net, records_of_noteReceipt hc hrule, WalletView.shieldedCredit, hnotes,
    sum_net_receiptMovements tx _ first hrest, hchange, List.map_cons, List.sum_cons]
  omega

/-- Words can hold the notes of a transaction, and the first of them even when the owned inputs are
taken off. -/
structure WalletView.ReceiptFits (w : WalletView) (tx : Transaction) : Prop where
  /-- What each note holds fits into a word. -/
  notes : ∀ note ∈ w.notesOf tx.hash, FitsWord note.amount
  /-- What the first one holds fits even less the owned inputs. -/
  first : ∀ note ∈ (w.notesOf tx.hash).head?, FitsWord (note.amount - (w.totals tx).debit)

theorem net_of_receiptFits (hc : classify w p tx = .ok c) (hrule : Rule.of w tx = .noteReceipt)
    (hfits : w.ReceiptFits tx) : c.net = w.shieldedCredit tx - (w.totals tx).debit := by
  obtain ⟨_, _, hnotes, _⟩ := Rule.of_eq_noteReceipt_iff.mp hrule
  have hfirst := List.head?_eq_some_head hnotes
  rw [net_of_noteReceipt hc hrule hfits.notes hfirst, (hfits.first _ hfirst).wrap_eq]
  omega

theorem net_of_poolDeposit (hc : classify w p tx = .ok c) (hrule : Rule.of w tx = .poolDeposit) :
    c.net = (w.totals tx).change - tx.poolIn := by
  obtain ⟨_, _, _, _, hin⟩ := Rule.of_eq_poolDeposit_iff.mp hrule
  have hconcerns : w.concerns tx := by
    obtain ⟨hne, hall⟩ := WalletView.ownsAllInputs_iff.mp hin
    obtain ⟨i, hi⟩ := List.exists_mem_of_ne_nil _ hne
    have hany : tx.inputs.any (fun i => (w.inputOwnership i).isMine) :=
      List.any_eq_true.mpr ⟨i, hi, hall i hi⟩
    simp [WalletView.concerns, WalletView.ownsAny, hany]
  rw [net_of_ne_noteReceipt hc (hrule.trans_ne (by decide)), if_pos hconcerns, hrule,
    Rule.decomposition, poolDeposit, netOf_cons, netOf_nil, Movement.gain]
  dsimp only
  omega

theorem net_of_poolWithdrawal (hc : classify w p tx = .ok c)
    (hrule : Rule.of w tx = .poolWithdrawal) : c.net = (w.totals tx).credit := by
  rw [net_of_ne_noteReceipt hc (hrule.trans_ne (by decide))]
  split
  · rw [hrule, Rule.decomposition, poolWithdrawal, netOf_cons, netOf_nil, Movement.gain]
    dsimp only
    omega
  · next hconcerns =>
    have hout := (WalletView.not_mine_of_not_concerns hconcerns).2
    rw [WalletView.credit_eq_zero hout]

/-- **The rules for the pool keep to the visible net only in part.** A withdrawal always does. A
receipt of notes that words can hold drops whatever the owned outputs hold, so it does only where
that is nothing, as it is where there are no outputs. A deposit counts what enters the pool and the
change, so it does only where these happen to be what the wallet spent and got back. -/
theorem pool_net_eq (hc : classify w p tx = .ok c) :
    (Rule.of w tx = .noteReceipt → w.ReceiptFits tx →
      c.net = w.shieldedCredit tx - (w.totals tx).debit ∧
      (c.net = w.visibleNet tx ↔ (w.totals tx).credit = 0) ∧
      (tx.outputs = [] → c.net = w.visibleNet tx)) ∧
    (Rule.of w tx = .poolDeposit →
      c.net = (w.totals tx).change - tx.poolIn ∧
      (c.net = w.visibleNet tx ↔
        (w.totals tx).change - tx.poolIn = (w.totals tx).credit - (w.totals tx).debit)) ∧
    (Rule.of w tx = .poolWithdrawal → c.net = w.visibleNet tx) := by
  refine ⟨fun hrule hfits => ?_, fun hrule => ?_, fun hrule => ?_⟩
  · have hnet := net_of_receiptFits hc hrule hfits
    have hiff : c.net = w.visibleNet tx ↔ (w.totals tx).credit = 0 := by
      rw [hnet, WalletView.visibleNet]
      omega
    exact ⟨hnet, hiff, fun hout => hiff.mpr (WalletView.credit_eq_zero_of_nil hout)⟩
  · have hnet := net_of_poolDeposit hc hrule
    obtain ⟨_, _, hnotes, _⟩ := Rule.of_eq_poolDeposit_iff.mp hrule
    refine ⟨hnet, ?_⟩
    rw [hnet, WalletView.visibleNet, WalletView.shieldedCredit_eq_zero hnotes, Int.add_zero]
  · have hnet := net_of_poolWithdrawal hc hrule
    obtain ⟨_, _, hnotes, _, hin⟩ := Rule.of_eq_poolWithdrawal_iff.mp hrule
    rw [hnet, WalletView.visibleNet, WalletView.shieldedCredit_eq_zero hnotes,
      WalletView.debit_eq_zero_of_nil hin]
    omega

/-- A transaction that spends one output of the wallet, moves `entering` into the pool and gives
`change` back. -/
def Transaction.sampleShielding (entering change : Int) (noteData : List NotePosition) :
    Transaction :=
  { Transaction.blank .sample 0 with
    inputs := [⟨⟨.sample, 0⟩⟩]
    outputs := [⟨change, .raw []⟩]
    shielded := [⟨entering, 0, []⟩]
    noteData }

theorem pool_net_eq_sampleShielding :
    (∃ c, classify (.sample 100 [⟨.sample, 65, "z"⟩]) .standard
        (.sampleShielding 65 30 [⟨0, 0⟩]) = .ok c ∧ c.net = 65 - 100) ∧
    ∃ c, classify (.sample 80000 []) .standard (.sampleShielding 70000 9000 []) = .ok c ∧
      c.net = 9000 - 70000 := by
  have hc : classify (.sample 100 [⟨.sample, 65, "z"⟩]) .standard
      (.sampleShielding 65 30 [⟨0, 0⟩]) = .ok _ := rfl
  have hc' : classify (.sample 80000 []) .standard (.sampleShielding 70000 9000 []) = .ok _ := rfl
  have hfits : (WalletView.sample 100 [⟨.sample, 65, "z"⟩]).ReceiptFits
      (.sampleShielding 65 30 [⟨0, 0⟩]) := ⟨by decide, by decide⟩
  exact ⟨⟨_, hc, ((pool_net_eq hc).1 rfl hfits).1⟩, _, hc', ((pool_net_eq hc').2.1 rfl).1⟩

/-- The wallet shields 65 of a coin of 100 into a note of its own and gets 30 back, which is a loss
of 5 and is recorded as one of 35; it deposits 70000 of a coin of 80000 and gets 9000 back, which is
a loss of 71000 and is recorded as one of 61000. -/
theorem pool_net_ne_visibleNet :
    (∃ c, classify (.sample 100 [⟨.sample, 65, "z"⟩]) .standard
        (.sampleShielding 65 30 [⟨0, 0⟩]) = .ok c ∧
      Rule.of (.sample 100 [⟨.sample, 65, "z"⟩]) (.sampleShielding 65 30 [⟨0, 0⟩]) =
        .noteReceipt ∧
      c.net = -35 ∧
      WalletView.visibleNet (.sample 100 [⟨.sample, 65, "z"⟩])
        (.sampleShielding 65 30 [⟨0, 0⟩]) = -5) ∧
    ∃ c, classify (.sample 80000 []) .standard (.sampleShielding 70000 9000 []) = .ok c ∧
      Rule.of (.sample 80000 []) (.sampleShielding 70000 9000 []) = .poolDeposit ∧
      c.net = -61000 ∧
      WalletView.visibleNet (.sample 80000 []) (.sampleShielding 70000 9000 []) = -71000 :=
  ⟨⟨_, rfl, rfl, rfl, rfl⟩, _, rfl, rfl, rfl, rfl⟩

end ShieldedLedger
