import ShieldedLedger.Proofs.Notices
import ShieldedLedger.Proofs.Relevance

/-!
# The assumed fee

Classifying a transaction takes a profile of the network, and reads one field of it: the fee that is
assumed for a shielded operation. Two rules assume it, since what they decompose does not show its
own fee: a payment out of the wallet's notes, and a deposit into notes that are not its own. Each of
them makes a single record, to which the assumed fee is added.

So a wallet can be viewed under several profiles at once. They fail alike, they tell the same, and
their records differ in at most one fee. A deposit that the transparent rule decomposes may have a
record of the same kind at the same address; its fee was observed, and is the same under all
profiles.

## Main definitions

* `WalletView.AssumesFee` — the transactions whose fee is assumed
* `Record.assuming` — a record to whose fee an assumed one is added

## Main results

* `WalletView.assumesFee_iff` — they are those of two rules
* `Rule.movements_of_assumes`, `Rule.decomposition_params` — how far the rules read the parameters
* `classify_under_two_params` — two profiles give the same ledger but for the assumed fee
-/

namespace ShieldedLedger

variable {w : WalletView} {tx : Transaction} {t : Totals} {rule : Rule}

/-! ### The rules -/

/-- The rules that assume a fee. -/
def Rule.Assumes (rule : Rule) : Prop := rule = .shieldedSend ∨ rule = .poolDeposit

/-- A record to whose fee an assumed one is added. -/
def Record.assuming (fee : Int) (r : Record) : Record := { r with fee := fee + r.fee }

namespace Rule

/-- A rule that assumes a fee makes one movement, and adds the assumed fee to what it knows of the
actual one. -/
theorem movements_of_assumes (h : rule.Assumes) (w : WalletView) (tx : Transaction) (t : Totals) :
    ∃ m : Movement, ∀ p : Params,
      (rule.decomposition w tx p t).movements = [{ m with fee := p.operationFee + m.fee }] := by
  rcases h with rfl | rfl
  · exact ⟨{
      kind := .shieldedSend
      address := lastDestination tx.outputs
      debit := -tx.valueOut
      credit := 0
      fee := -(tx.poolOut - tx.valueOut) }, fun p => rfl⟩
  · exact ⟨{
      kind := .sentTransparent
      address := unknownShieldedAddress
      debit := -tx.poolIn
      credit := t.change
      fee := -t.change }, fun p => rfl⟩

/-- The other rules do not read the parameters. -/
theorem decomposition_params (h : ¬rule.Assumes) (w : WalletView) (tx : Transaction) (t : Totals)
    (p q : Params) : rule.decomposition w tx p t = rule.decomposition w tx q t := by
  cases rule with
  | transparent => rfl
  | noteReceipt => rfl
  | shieldedSend => exact absurd (.inl rfl) h
  | poolDeposit => exact absurd (.inr rfl) h
  | poolWithdrawal => rfl

/-- No rule reads them for its notices. -/
theorem notices_params (rule : Rule) (w : WalletView) (tx : Transaction) (t : Totals)
    (p q : Params) :
    (rule.decomposition w tx p t).notices = (rule.decomposition w tx q t).notices := by
  cases rule <;> rfl

end Rule

/-! ### The transactions -/

/-- The transactions whose fee is assumed: the wallet takes part in their shielded side, which does
not show what was paid for it. -/
inductive WalletView.AssumesFee (w : WalletView) (tx : Transaction) : Prop where
  /-- It pays transparent outputs out of its notes, and decrypted some output. -/
  | send (hshape : Shape.of tx = .shieldedOut) (hnotes : w.notesOf tx.hash ≠ [])
    (hdata : tx.hasNoteData)
  /-- It pays into the pool from inputs that are all its own, and knows no note of it. -/
  | deposit (hshape : Shape.of tx = .shieldedBoth) (hnotes : w.notesOf tx.hash = [])
    (hdata : tx.hasNoteData = false) (hin : w.ownsAllInputs tx)

namespace WalletView

/-- **The transactions whose fee is assumed are those of the rules that assume one.** -/
theorem assumesFee_iff : w.AssumesFee tx ↔ (Rule.of w tx).Assumes := by
  rw [Rule.Assumes, Rule.of_eq_shieldedSend_iff, Rule.of_eq_poolDeposit_iff]
  constructor
  · intro h
    cases h with
    | send hshape hnotes hdata =>
      obtain ⟨hshielded, hin, hout⟩ := Shape.of_eq_shieldedOut_iff.mp hshape
      exact .inl ⟨hshielded, hdata, hnotes, hin, hout⟩
    | deposit hshape hnotes hdata hin =>
      obtain ⟨hshielded, -, hout⟩ := Shape.of_eq_shieldedBoth_iff.mp hshape
      exact .inr ⟨hshielded, hdata, hnotes, hout, hin⟩
  · rintro (⟨hshielded, hdata, hnotes, hin, hout⟩ | ⟨hshielded, hdata, hnotes, hout, hin⟩)
    · exact .send (Shape.of_eq_shieldedOut_iff.mpr ⟨hshielded, hin, hout⟩) hnotes hdata
    · obtain ⟨hne, -⟩ := ownsAllInputs_iff.mp hin
      exact .deposit (Shape.of_eq_shieldedBoth_iff.mpr ⟨hshielded, hne, hout⟩) hnotes hdata hin

/-- Such a transaction is never passed over. -/
theorem AssumesFee.concerns (h : w.AssumesFee tx) : w.concerns tx := by
  cases h with
  | send _ _ hdata => exact concerns_of_hasNoteData hdata
  | deposit _ _ _ hin =>
    obtain ⟨hne, hall⟩ := ownsAllInputs_iff.mp hin
    obtain ⟨i, hi⟩ := List.exists_mem_of_ne_nil _ hne
    by_contra hconcerns
    exact (not_concerns_iff.mp hconcerns).1 i hi (hall i hi)

end WalletView

/-! ### Classifications -/

/-- Under all parameters there is one record, and the assumed fee is added to the same fee. -/
theorem classification_of_assumesFee (h : w.AssumesFee tx) :
    ∃ r : Record, ∀ p : Params,
      (classification w p tx (w.totals tx)).records = [r.assuming p.operationFee] := by
  obtain ⟨m, hm⟩ := Rule.movements_of_assumes (WalletView.assumesFee_iff.mp h) w tx (w.totals tx)
  refine ⟨.ofMovement tx 0 m, fun p => ?_⟩
  rw [classification_records, if_pos h.concerns, hm]
  rfl

/-- Where no fee is assumed, the parameters do not matter. -/
theorem classification_params (h : ¬w.AssumesFee tx) (p q : Params) :
    classification w p tx (w.totals tx) = classification w q tx (w.totals tx) := by
  rw [WalletView.assumesFee_iff] at h
  rw [classification_eq, classification_eq, Rule.decomposition_params h w tx _ p q]

theorem classification_params_notices (w : WalletView) (tx : Transaction) (p q : Params) :
    (classification w p tx (w.totals tx)).notices =
      (classification w q tx (w.totals tx)).notices := by
  rw [classification_notices, classification_notices, Rule.notices_params _ w tx _ p q]

/-- The records agree one by one, but for their fees. -/
theorem classification_params_records (w : WalletView) (tx : Transaction) (p q : Params) :
    List.Forall₂ (fun r r' => r' = { r with fee := r'.fee })
      (classification w p tx (w.totals tx)).records
      (classification w q tx (w.totals tx)).records := by
  by_cases h : w.AssumesFee tx
  · obtain ⟨r, hr⟩ := classification_of_assumesFee h
    rw [hr, hr]
    exact .cons rfl .nil
  · rw [classification_params h p q]
    exact List.forall₂_same.mpr fun r _ => rfl

/-- **Two profiles give the same ledger but for the assumed fee.** Either a transaction is refused
under both, for the same reason, or both classify it with the same shape and the same notices, and
with as many records, which differ in nothing but a fee. The fee differs in the single record of a
transaction whose fee is assumed, by as much as the profiles do; all other fees agree. -/
theorem classify_under_two_params (w : WalletView) (tx : Transaction) (p q : Params) :
    (∃ e, classify w p tx = .error e ∧ classify w q tx = .error e) ∨
    ∃ c c', classify w p tx = .ok c ∧ classify w q tx = .ok c' ∧
      c.shape = c'.shape ∧ c.notices = c'.notices ∧
      List.Forall₂ (fun r r' => r' = { r with fee := r'.fee }) c.records c'.records ∧
      (w.AssumesFee tx → ∃ r r', c.records = [r] ∧ c'.records = [r'] ∧
        r.fee - r'.fee = p.operationFee - q.operationFee) ∧
      (¬w.AssumesFee tx → c.records = c'.records) := by
  rw [classify_eq_map, classify_eq_map]
  cases (do tx.checkAmounts; w.spent tx) with
  | error e => exact .inl ⟨e, rfl, rfl⟩
  | ok =>
    refine .inr ⟨_, _, rfl, rfl, ?_, classification_params_notices w tx p q,
      classification_params_records w tx p q, fun h => ?_, fun h => ?_⟩
    · rw [classification_shape, classification_shape]
    · obtain ⟨r, hr⟩ := classification_of_assumesFee h
      exact ⟨_, _, hr p, hr q, Int.add_sub_add_right p.operationFee r.fee q.operationFee⟩
    · rw [classification_params h p q]

/-- A payment of 5 for which nothing leaves the pool openly: the fee is what is assumed, and 5
more. -/
example (p : Params) :
    (classify WalletSnapshot.sampleHolder.view p
      { Transaction.sampleShielded [⟨0, 0⟩] with outputs := [⟨5, .address "other"⟩] }).map
        (·.records.map (·.fee)) = .ok [p.operationFee + 5] :=
  rfl

end ShieldedLedger
