import ShieldedLedger.Proofs.Reading

/-!
# The kinds of records

A record tells by its kind what sort of line it is, and every rule has kinds of its own. A rule that
lists several movements changes the amounts of the first of them only, so the kinds can be read off
the list as it was before.

## Main results

* `kind_of_mem_modifyHead` — a change to the amounts of the first movement keeps the kinds
* `Rule.kind_eq_generated_iff` — which rules give a block reward records of its kind
* `Rule.kind_eq_mixed_iff` — which records stand for a net alone
-/

namespace ShieldedLedger

variable {w : WalletView} {tx : Transaction} {p : Params} {t : Totals}

/-- What holds of the kinds of some movements holds of the kinds of their records. -/
theorem Record.kind_ofMovements {P : RecordKind → Prop} {ms : List Movement}
    (h : ∀ m ∈ ms, P m.kind) : ∀ r ∈ ofMovements tx ms, P r.kind := by
  intro r hr
  obtain ⟨_, m, hm, rfl⟩ := mem_ofMovements_iff.mp hr
  exact h m (List.mem_of_getElem? hm)

/-- A change to the first movement that keeps its kind keeps all kinds. -/
theorem kind_of_mem_modifyHead {f : Movement → Movement} {ms : List Movement} {m : Movement}
    (hm : m ∈ ms.modifyHead f) (hf : ∀ m, (f m).kind = m.kind) :
    ∃ m' ∈ ms, m.kind = m'.kind := by
  cases ms with
  | nil => exact absurd hm List.not_mem_nil
  | cons m' ms =>
    rcases List.mem_cons.mp hm with rfl | hm
    · exact ⟨m', List.mem_cons_self, hf m'⟩
    · exact ⟨m, List.mem_cons_of_mem _ hm, rfl⟩

/-! ### The lists of the rules -/

/-- A receipt of notes has one of these three kinds. -/
theorem Transaction.receiptKind_mem (tx : Transaction) :
    tx.receiptKind ∈ [RecordKind.shieldedReceive, .shieldedPool, .receivedTransparent] := by
  rw [receiptKind]
  split_ifs <;> decide

/-- The records of a receipt are all of one kind; the first one differs in its amounts only. -/
theorem kind_receiptMovements {kind : RecordKind} {notes : List Note} {debit change : Int}
    {m : Movement} (hm : m ∈ receiptMovements kind notes debit change) : m.kind = kind := by
  obtain ⟨m', hm', hkind⟩ := kind_of_mem_modifyHead hm fun _ => rfl
  obtain ⟨note, _, rfl⟩ := List.mem_map.mp hm'
  exact hkind

theorem kind_creditMovements {m : Movement} (hm : m ∈ creditMovements w tx t) :
    ∃ out, m.kind = (creditMovement w tx out).kind := by
  obtain ⟨m', hm', hkind⟩ := kind_of_mem_modifyHead hm fun _ => rfl
  obtain ⟨out, _, rfl⟩ := List.mem_map.mp hm'
  exact ⟨out, hkind⟩

theorem kind_charged (fee : Int) (m : Movement) : (m.charged fee).kind = m.kind := by
  rw [Movement.charged]
  split <;> rfl

/-- What a payment lists is sent, to an address or to something unknown. -/
theorem kind_debitMovements {m : Movement} (hm : m ∈ debitMovements w tx t) :
    m.kind = .sentTransparent ∨ m.kind = .sentToUnknown := by
  rcases List.mem_append.mp hm with hm | hm
  · obtain ⟨m', hm', hkind⟩ := kind_of_mem_modifyHead hm (kind_charged _)
    obtain ⟨out, _, rfl⟩ := List.mem_map.mp hm'
    rw [hkind, debitMovement]
    split <;> simp
  · rw [depositMovements] at hm
    split at hm
    · cases List.mem_singleton.mp hm
      exact .inl rfl
    · exact absurd hm List.not_mem_nil

/-! ### Block rewards -/

/-- **Only the transparent rule gives a block reward records of its kind**, and it gives it no
others. -/
theorem Rule.kind_eq_generated_iff (hcoinbase : tx.isCoinbase) {rule : Rule} {m : Movement}
    (hm : m ∈ (rule.decomposition w tx p t).movements) :
    m.kind = .generated ↔ rule = .transparent := by
  cases rule with
  | transparent =>
    rw [decomposition, ShieldedLedger.transparent, if_pos (.inr hcoinbase)] at hm
    obtain ⟨out, hkind⟩ := kind_creditMovements hm
    exact iff_of_true (hkind.trans (if_pos hcoinbase)) rfl
  | noteReceipt =>
    have hkind : m.kind = tx.receiptKind := kind_receiptMovements hm
    refine iff_of_false (fun h => ?_) (by simp)
    exact absurd (hkind.symm.trans h ▸ tx.receiptKind_mem) (by decide)
  | shieldedSend =>
    cases List.mem_singleton.mp hm
    simp
  | poolDeposit =>
    cases List.mem_singleton.mp hm
    simp
  | poolWithdrawal =>
    cases List.mem_singleton.mp hm
    simp

theorem kind_of_classify (hcoinbase : tx.isCoinbase) {c : Classification}
    (hc : classify w p tx = .ok c) {record : Record} (hr : record ∈ c.records) :
    record.kind = .generated ↔ Rule.of w tx = .transparent := by
  obtain ⟨_, _, _, rfl⟩ := classify_eq_ok_iff.mp hc
  rw [classification_records] at hr
  split at hr
  · exact Record.kind_ofMovements (P := fun kind => kind = .generated ↔ _)
      (fun m hm => Rule.kind_eq_generated_iff hcoinbase hm) record hr
  · exact absurd hr List.not_mem_nil

/-! ### Nets -/

theorem kind_creditMovement_ne_mixed (out : TxOutput) :
    (creditMovement w tx out).kind ≠ .mixed := by
  rw [creditMovement]
  dsimp only
  split_ifs <;> decide

/-- **Only the net of a transaction is recorded as mixed.** -/
theorem Rule.kind_eq_mixed_iff {rule : Rule} {m : Movement}
    (hm : m ∈ (rule.decomposition w tx p t).movements) :
    m.kind = .mixed ↔ rule = .transparent ∧ w.NetsOnly tx t := by
  cases rule with
  | transparent =>
    have hreading := reading_transparent w tx t
    rw [decomposition] at hm
    generalize ShieldedLedger.transparent w tx t = d at hm hreading
    cases hreading with
    | receipt hgain =>
      obtain ⟨out, hkind⟩ := kind_creditMovements hm
      exact iff_of_false (hkind ▸ kind_creditMovement_ne_mixed out) fun h => h.2.1 hgain
    | selfTransfer _ hin =>
      cases List.mem_singleton.mp hm
      exact iff_of_false (by simp [selfMovement]) fun h => h.2.2 hin
    | payment _ hin =>
      refine iff_of_false (fun h => ?_) fun h => h.2.2 hin
      rcases kind_debitMovements hm with hkind | hkind <;> cases hkind.symm.trans h
    | netOnly hnet =>
      cases List.mem_singleton.mp hm
      exact iff_of_true rfl ⟨rfl, hnet⟩
  | noteReceipt =>
    have hkind : m.kind = tx.receiptKind := kind_receiptMovements hm
    refine iff_of_false (fun h => ?_) (by simp)
    exact absurd (hkind.symm.trans h ▸ tx.receiptKind_mem) (by decide)
  | shieldedSend =>
    cases List.mem_singleton.mp hm
    simp
  | poolDeposit =>
    cases List.mem_singleton.mp hm
    simp
  | poolWithdrawal =>
    cases List.mem_singleton.mp hm
    simp

end ShieldedLedger
