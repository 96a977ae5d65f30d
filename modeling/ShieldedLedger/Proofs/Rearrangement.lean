import Mathlib.Data.List.Perm.Basic
import ShieldedLedger.Proofs.Alike
import ShieldedLedger.Proofs.Conservation

/-!
# Transactions laid out otherwise

The same business can be put into a transaction in many ways. The inputs stand in some order, what
crosses the border of the pool is split into transfers, and what the wallet decrypted stands at
certain places. This file shows that the records are the same in each of them: inputs are only
counted and added up, transfers are only added up, and of the decrypted outputs it only matters that
there are any.

The one thing that shows the order of the inputs is the reason why a transaction cannot be
classified, since the wallet stops at the first input that it cannot value. Whether it can does not
depend on the order. With transfers this would not be so without a condition: a transfer of less
than nothing is refused, however well the total looks.

## Main definitions

* `Transaction.Rearranges` — two transactions differ in their layout only

## Main results

* `Transaction.Rearranges.alike` — the rules see no difference
* `Transaction.Rearranges.classified_iff` — so both are classified alike, if at all
-/

namespace ShieldedLedger

/-! ### Sums in any order -/

/-- Amounts in the money range can be added up as soon as others of the same total can. -/
theorem SoundAmounts.of_sum_eq {values values' : List Int} (h : SoundAmounts values)
    (hrange : ∀ v ∈ values', InMoneyRange v) (hsum : values'.sum = values.sum) :
    SoundAmounts values' where
  inRange := hrange
  total_le := by
    rw [hsum]
    exact h.total_le

theorem SoundAmounts.perm {values values' : List Int} (h : SoundAmounts values)
    (hperm : values'.Perm values) : SoundAmounts values' :=
  h.of_sum_eq (fun v hv => h.inRange v (hperm.mem_iff.mp hv)) hperm.sum_eq

namespace Transaction

/-! ### Layouts -/

/-- Both amounts of each transfer are in the money range. -/
def TransfersInRange (tx : Transaction) : Prop :=
  ∀ s ∈ tx.shielded, InMoneyRange s.entering ∧ InMoneyRange s.leaving

instance (tx : Transaction) : Decidable tx.TransfersInRange :=
  inferInstanceAs (Decidable (∀ s ∈ tx.shielded, InMoneyRange s.entering ∧ InMoneyRange s.leaving))

/-- The second transaction has the same content as the first in another layout: its inputs may
stand in another order, its transfers may split the same totals otherwise, and what was decrypted
may stand elsewhere. Of the annotations only the two that name a counterpart are the same. -/
structure Rearranges (tx tx' : Transaction) : Prop where
  /-- It is the same transaction by its hash. -/
  hash_eq : tx'.hash = tx.hash
  /-- The outputs are the same, in the same order. -/
  outputs_eq : tx'.outputs = tx.outputs
  /-- Both pay out a block reward, or neither does. -/
  isCoinbase_eq : tx'.isCoinbase = tx.isCoinbase
  /-- They were received at the same time. -/
  timeReceived_eq : tx'.timeReceived = tx.timeReceived
  /-- Unnamed receipts come from the same counterpart. -/
  from_eq : tx'.annotation "from" = tx.annotation "from"
  /-- Unnamed payments go to the same counterpart. -/
  to_eq : tx'.annotation "to" = tx.annotation "to"
  /-- The inputs are the same, in any order. -/
  inputs_perm : tx'.inputs.Perm tx.inputs
  /-- Both use the pool, or neither does. -/
  shielded_eq_nil_iff : tx'.shielded = [] ↔ tx.shielded = []
  /-- The transfers of the first one are of amounts that there can be. -/
  inRange : tx.TransfersInRange
  /-- And so are those of the second one. -/
  inRange' : tx'.TransfersInRange
  /-- As much enters the pool. -/
  poolIn_eq : tx'.poolIn = tx.poolIn
  /-- As much leaves it. -/
  poolOut_eq : tx'.poolOut = tx.poolOut
  /-- Something was decrypted in both, or in neither. -/
  noteData_eq_nil_iff : tx'.noteData = [] ↔ tx.noteData = []

namespace Rearranges

variable {tx tx' : Transaction} (h : tx.Rearranges tx')
include h

theorem symm : tx'.Rearranges tx where
  hash_eq := h.hash_eq.symm
  outputs_eq := h.outputs_eq.symm
  isCoinbase_eq := h.isCoinbase_eq.symm
  timeReceived_eq := h.timeReceived_eq.symm
  from_eq := h.from_eq.symm
  to_eq := h.to_eq.symm
  inputs_perm := h.inputs_perm.symm
  shielded_eq_nil_iff := h.shielded_eq_nil_iff.symm
  inRange := h.inRange'
  inRange' := h.inRange
  poolIn_eq := h.poolIn_eq.symm
  poolOut_eq := h.poolOut_eq.symm
  noteData_eq_nil_iff := h.noteData_eq_nil_iff.symm

/-! ### Checks -/

/-- Transfers are added up whole or not at all, however they are split. -/
theorem sound (hsound : tx.Sound) : tx'.Sound where
  outputs := by
    rw [h.outputs_eq]
    exact hsound.outputs
  entering := by
    refine hsound.entering.of_sum_eq (fun v hv => ?_) h.poolIn_eq
    obtain ⟨s, hs, rfl⟩ := List.mem_map.mp hv
    exact (h.inRange' s hs).1
  leaving := by
    refine hsound.leaving.of_sum_eq (fun v hv => ?_) h.poolOut_eq
    obtain ⟨s, hs, rfl⟩ := List.mem_map.mp hv
    exact (h.inRange' s hs).2

variable (w : WalletView)

theorem knowsSpent (hknown : w.KnowsSpent tx) : w.KnowsSpent tx' := fun i hi =>
  hknown i (h.inputs_perm.mem_iff.mp hi)

theorem spentValues_perm :
    ((w.spentOutputs tx').map (·.value)).Perm ((w.spentOutputs tx).map (·.value)) :=
  ((h.inputs_perm.filter _).filterMap _).map _

/-! ### Classification -/

/-- The rules see no difference. -/
theorem alike : Alike w w tx tx' where
  hash_eq := h.hash_eq
  timeReceived_eq := h.timeReceived_eq
  isCoinbase_eq := h.isCoinbase_eq
  from_eq := h.from_eq
  to_eq := h.to_eq
  outputs_eq := h.outputs_eq
  outputOwnership_eq _ _ := rfl
  isEmpty_inputs := h.inputs_perm.isEmpty_eq
  any_inputs _ := h.inputs_perm.any_eq
  hasShielded_eq := by
    rw [hasShielded, hasShielded, Bool.eq_iff_iff]
    simpa using not_congr h.shielded_eq_nil_iff
  poolIn_eq := h.poolIn_eq
  poolOut_eq := h.poolOut_eq
  hasNoteData_eq := by
    rw [hasNoteData, hasNoteData, Bool.eq_iff_iff]
    simpa using not_congr h.noteData_eq_nil_iff
  notesOf_eq := rfl

theorem totals_eq : w.totals tx' = w.totals tx := by
  rw [WalletView.totals, WalletView.totals, (h.spentValues_perm w).sum_eq,
    WalletView.changeOutputs, WalletView.changeOutputs, (h.alike w).ownedOutputs_eq]

theorem classify_eq_ok {p : Params} {c : Classification} (hc : classify w p tx = .ok c) :
    classify w p tx' = .ok c := by
  obtain ⟨hsound, hknown, hspent, rfl⟩ := classify_eq_ok_iff.mp hc
  refine classify_eq_ok_iff.mpr
    ⟨h.sound hsound, h.knowsSpent w hknown, hspent.perm (h.spentValues_perm w), ?_⟩
  rw [(h.alike w).classification_eq, h.totals_eq]

/-- **A classification does not depend on the layout.** If one of the transactions can be
classified, then so can the other one, and the two classifications are the same. -/
theorem classified_iff (p : Params) (c : Classification) :
    classify w p tx' = .ok c ↔ classify w p tx = .ok c :=
  ⟨h.symm.classify_eq_ok w, h.classify_eq_ok w⟩

end Rearranges

/-- A transaction that moves 65 into the pool at once. -/
def sampleAtOnce : Transaction :=
  { sampleShielding 65 30 [⟨0, 0⟩] with inputs := [⟨⟨.sample, 0⟩⟩, ⟨⟨.sample, 1⟩⟩] }

/-- The same with the inputs the other way round, the 65 in two parts, and more decrypted. -/
def sampleInParts : Transaction :=
  { sampleAtOnce with
    inputs := [⟨⟨.sample, 1⟩⟩, ⟨⟨.sample, 0⟩⟩]
    shielded := [⟨40, 0, [[1]]⟩, ⟨25, 0, []⟩]
    noteData := [⟨1, 0⟩, ⟨0, 1⟩]
    lockTime := 7
    metadata := SortedMap.insert ∅ "memo" "rent" }

theorem sampleAtOnce_rearranges : sampleAtOnce.Rearranges sampleInParts where
  hash_eq := rfl
  outputs_eq := rfl
  isCoinbase_eq := rfl
  timeReceived_eq := rfl
  from_eq := rfl
  to_eq := rfl
  inputs_perm := .swap _ _ _
  shielded_eq_nil_iff := by decide
  inRange := by decide
  inRange' := by decide
  poolIn_eq := rfl
  poolOut_eq := rfl
  noteData_eq_nil_iff := by decide

theorem classified_iff_sampleInParts :
    sampleAtOnce.Rearranges sampleInParts ∧
    ∃ c, classify (.sample 100 [⟨.sample, 65, "z"⟩]) .standard sampleAtOnce = .ok c ∧
      classify (.sample 100 [⟨.sample, 65, "z"⟩]) .standard sampleInParts = .ok c ∧
      c.records.map (·.address) = ["z"] :=
  ⟨sampleAtOnce_rearranges, _, rfl, (sampleAtOnce_rearranges.classified_iff _ _ _).mpr rfl, rfl⟩

/-- The order of the inputs shows in the reason why a transaction cannot be classified. -/
example :
    let w : WalletView := { WalletView.sample 100 [] with
      inputOwnership := fun _ => .spendable
      previousOutput := fun place => if place.index = 0 then none else some ⟨-1, .raw []⟩ }
    let unknown : TxInput := ⟨⟨.sample, 0⟩⟩
    let negative : TxInput := ⟨⟨.sample, 1⟩⟩
    classify w .standard { blank .sample 0 with inputs := [unknown, negative] } =
        .error (.missingPrevout unknown.prevout) ∧
      classify w .standard { blank .sample 0 with inputs := [negative, unknown] } =
        .error (.amountOutOfRange .sample (-1)) := ⟨rfl, rfl⟩

end Transaction

end ShieldedLedger
