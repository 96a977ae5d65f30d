import Mathlib.Tactic.SplitIfs
import ShieldedLedger.Classification
import ShieldedLedger.Proofs.Holdings

/-!
# Which rule applies

The choice of a rule mixes the shape of a transaction with what the wallet's notes say about it, and
the three receipts of notes look like three rules. This file states the choice by what the
transaction contains, and shows that those three are one rule: a side without inputs or outputs
contributes nothing, which is all that tells them apart.

From here on no proof opens `decompose` or `classify`.

## Main definitions

* `Rule`, `Rule.of` — the five rules and the choice among them
* `Rule.decomposition` — what a rule makes of a transaction

## Main results

* `decompose_agree` — every transaction is decomposed by its rule
* `classify_eq_ok_iff`, `classify_eq_error_iff` — when a classification succeeds, and with what
* `classify_eq_map` — it consists of checks, and of a decomposition that cannot fail
* `classification_eq` — its records are the movements of the rule, and its notices are those of the
  rule
-/

namespace ShieldedLedger

/-- The rules that decompose transactions. -/
inductive Rule where
  /-- The transparent side alone. -/
  | transparent
  /-- Value arrived in notes of the wallet. -/
  | noteReceipt
  /-- Value left the wallet's notes for transparent outputs. -/
  | shieldedSend
  /-- The wallet paid into somebody's notes. -/
  | poolDeposit
  /-- The wallet was paid out of somebody's notes. -/
  | poolWithdrawal
  deriving DecidableEq, Repr

/-- The rule for a transaction. With decrypted outputs and notes of its own the wallet takes part in
the shielded side; with neither it takes part at most in the transparent side; anything else, like
a transaction that does not use the pool, is read by its transparent side. -/
def Rule.of (w : WalletView) (tx : Transaction) : Rule :=
  if !tx.hasShielded then .transparent
  else if tx.hasNoteData && !(w.notesOf tx.hash).isEmpty then
    if tx.inputs.isEmpty && !tx.outputs.isEmpty then .shieldedSend else .noteReceipt
  else if !tx.hasNoteData && (w.notesOf tx.hash).isEmpty && !tx.outputs.isEmpty then
    if tx.inputs.isEmpty then .poolWithdrawal
    else if w.ownsAllInputs tx then .poolDeposit
    else .transparent
  else .transparent

/-- The kind of the records of a receipt, by the transparent sides that are present. -/
def Transaction.receiptKind (tx : Transaction) : RecordKind :=
  if tx.inputs.isEmpty then .shieldedReceive
  else if tx.outputs.isEmpty then .shieldedPool
  else .receivedTransparent

/-- What a rule makes of a transaction. -/
def Rule.decomposition (w : WalletView) (tx : Transaction) (p : Params) (t : Totals) :
    Rule → Decomposition
  | transparent => ShieldedLedger.transparent w tx t
  | noteReceipt =>
    ShieldedLedger.noteReceipt tx tx.receiptKind (w.notesOf tx.hash) (-(t.debit - t.change))
      t.change
  | shieldedSend => ShieldedLedger.shieldedSend tx p (w.notesOf tx.hash)
  | poolDeposit => ShieldedLedger.poolDeposit tx t p
  | poolWithdrawal => ShieldedLedger.poolWithdrawal w tx t

variable {w : WalletView} {tx : Transaction} {p : Params}

/-! ### The choice -/

theorem Shape.of_eq_plain_iff : Shape.of tx = .plain ↔ tx.hasShielded = false := by
  rw [Shape.of]
  cases tx.hasShielded <;> cases tx.inputs.isEmpty <;> cases tx.outputs.isEmpty <;> simp

theorem Shape.of_eq_shieldedBoth_iff :
    Shape.of tx = .shieldedBoth ↔ tx.hasShielded ∧ tx.inputs ≠ [] ∧ tx.outputs ≠ [] := by
  rw [Shape.of]
  cases tx.hasShielded <;> cases tx.inputs <;> cases tx.outputs <;> simp

/-- The notes are searched as soon as the transaction uses the pool. -/
theorem Resolution.find_of_hasShielded (h : tx.hasShielded = true) :
    Resolution.find w tx = .of (w.notesOf tx.hash) tx.hasNoteData := by
  have hne : Shape.of tx ≠ .plain := by simp [Shape.of_eq_plain_iff, h]
  rw [Resolution.find, if_neg hne]

/-- A side without inputs or outputs contributes nothing, so the three receipts are one rule. -/
theorem decompose_owned (h : tx.hasShielded = true) :
    decompose w tx p (w.totals tx) (.owned (w.notesOf tx.hash)) =
      (if tx.inputs.isEmpty && !tx.outputs.isEmpty then Rule.shieldedSend
        else Rule.noteReceipt).decomposition w tx p (w.totals tx) := by
  have hdebit : tx.inputs.isEmpty → (w.totals tx).debit = 0 := fun hin =>
    WalletView.debit_eq_zero_of_nil (List.isEmpty_iff.mp hin)
  have hchange : tx.outputs.isEmpty → (w.totals tx).change = 0 := fun hout =>
    WalletView.change_eq_zero_of_nil (List.isEmpty_iff.mp hout)
  cases hin : tx.inputs.isEmpty <;> cases hout : tx.outputs.isEmpty <;>
    simp [decompose, Shape.of, Rule.decomposition, Transaction.receiptKind, h, hin, hout,
      hdebit, hchange]

/-- The records and notices of two decompositions agree; what they tell the log may differ. -/
def Decomposition.Agree (d d' : Decomposition) : Prop :=
  d.movements = d'.movements ∧ d.notices = d'.notices

theorem decompose_counterpart (h : tx.hasShielded = true) (t : Totals) :
    (decompose w tx p t .counterpart).Agree
      ((if tx.outputs.isEmpty then Rule.transparent
        else if tx.inputs.isEmpty then Rule.poolWithdrawal
        else if w.ownsAllInputs tx then Rule.poolDeposit
        else Rule.transparent).decomposition w tx p t) := by
  cases hin : tx.inputs.isEmpty <;> cases hout : tx.outputs.isEmpty
  case false.false =>
    simp only [decompose, Shape.of, h, hin, hout, Bool.not_true, Bool.false_eq_true, if_false]
    split <;> exact ⟨rfl, rfl⟩
  all_goals
    simp only [decompose, Shape.of, h, hin, hout]
    exact ⟨rfl, rfl⟩

theorem decompose_unmatched (h : tx.hasShielded = true) (t : Totals) :
    (decompose w tx p t .unmatched).Agree (Rule.transparent.decomposition w tx p t) := by
  cases hin : tx.inputs.isEmpty <;> cases hout : tx.outputs.isEmpty <;>
    simp only [decompose, Shape.of, h, hin, hout] <;>
    exact ⟨rfl, rfl⟩

/-- **Every transaction is decomposed by its rule.** -/
theorem decompose_agree (w : WalletView) (tx : Transaction) (p : Params) :
    (decompose w tx p (w.totals tx) (.find w tx)).Agree
      ((Rule.of w tx).decomposition w tx p (w.totals tx)) := by
  cases h : tx.hasShielded with
  | false =>
    rw [Rule.of, h, decompose.eq_def, Shape.of_eq_plain_iff.mpr h]
    exact ⟨rfl, rfl⟩
  | true =>
    rw [Resolution.find_of_hasShielded h]
    cases hnotes : w.notesOf tx.hash with
    | nil =>
      cases hdata : tx.hasNoteData with
      | false =>
        have hrule : Rule.of w tx = if tx.outputs.isEmpty then Rule.transparent
            else if tx.inputs.isEmpty then Rule.poolWithdrawal
            else if w.ownsAllInputs tx then Rule.poolDeposit
            else Rule.transparent := by
          cases hout : tx.outputs.isEmpty <;> simp [Rule.of, h, hdata, hnotes, hout]
        rw [hrule]
        exact decompose_counterpart h _
      | true =>
        have hrule : Rule.of w tx = .transparent := by simp [Rule.of, h, hdata, hnotes]
        rw [hrule]
        exact decompose_unmatched h _
    | cons note notes =>
      cases hdata : tx.hasNoteData with
      | false =>
        have hrule : Rule.of w tx = .transparent := by simp [Rule.of, h, hdata, hnotes]
        rw [hrule]
        exact decompose_unmatched h _
      | true =>
        have hrule : Rule.of w tx = if tx.inputs.isEmpty && !tx.outputs.isEmpty
            then Rule.shieldedSend else Rule.noteReceipt := by
          simp [Rule.of, h, hdata, hnotes]
        rw [hrule, Resolution.of, ← hnotes, decompose_owned h]
        exact ⟨rfl, rfl⟩

/-! ### When a rule for the pool is chosen -/

theorem Rule.of_eq_noteReceipt_iff :
    Rule.of w tx = .noteReceipt ↔
      tx.hasShielded ∧ tx.hasNoteData ∧ w.notesOf tx.hash ≠ [] ∧
        (tx.inputs = [] → tx.outputs = []) := by
  rw [Rule.of]
  split_ifs <;> simp_all

theorem Rule.of_eq_poolDeposit_iff :
    Rule.of w tx = .poolDeposit ↔
      tx.hasShielded ∧ tx.hasNoteData = false ∧ w.notesOf tx.hash = [] ∧ tx.outputs ≠ [] ∧
        w.ownsAllInputs tx := by
  have hne : tx.inputs = [] → w.ownsAllInputs tx = false := fun h => by
    simp [WalletView.ownsAllInputs, h]
  rw [Rule.of]
  split_ifs <;> simp_all

theorem Rule.of_eq_poolWithdrawal_iff :
    Rule.of w tx = .poolWithdrawal ↔
      tx.hasShielded ∧ tx.hasNoteData = false ∧ w.notesOf tx.hash = [] ∧ tx.outputs ≠ [] ∧
        tx.inputs = [] := by
  rw [Rule.of]
  split_ifs <;> simp_all

/-! ### Classification -/

theorem checkAmounts_eq_ok_iff : tx.checkAmounts = .ok () ↔ tx.Sound := by
  rw [← badAmount?_eq_none_iff, Transaction.checkAmounts]
  cases tx.badAmount? <;> simp

theorem checkAmounts_eq_error_iff {e : LedgerError} :
    tx.checkAmounts = .error e ↔ ∃ v, tx.FirstFault v ∧ e = .amountOutOfRange tx.hash v := by
  simp only [← badAmount?_eq_some_iff, Transaction.checkAmounts]
  cases tx.badAmount? <;> simp [eq_comm]

/-- **A classification succeeds exactly when all amounts can be added up**, and then it is that of
the plain sums. -/
theorem classify_eq_ok_iff {c : Classification} :
    classify w p tx = .ok c ↔
      tx.Sound ∧ w.KnowsSpent tx ∧ SoundAmounts ((w.spentOutputs tx).map (·.value)) ∧
        c = classification w p tx (w.totals tx) := by
  rw [classify_eq, bind_eq_ok_iff]
  constructor
  · rintro ⟨⟨⟩, hcheck, hrest⟩
    obtain ⟨t, ht, rfl⟩ := bind_pure_eq_ok_iff.mp hrest
    obtain ⟨hknown, hspent, rfl⟩ := Totals.of_eq_ok_iff.mp ht
    exact ⟨checkAmounts_eq_ok_iff.mp hcheck, hknown, hspent, rfl⟩
  · rintro ⟨hsound, hknown, hspent, rfl⟩
    exact ⟨(), checkAmounts_eq_ok_iff.mpr hsound,
      bind_pure_eq_ok_iff.mpr ⟨_, Totals.of_eq_ok_iff.mpr ⟨hknown, hspent, rfl⟩, rfl⟩⟩

/-- A wallet that knows what it spends can only be stopped by an amount: of the transaction first,
then of the outputs it spends. -/
theorem classify_eq_error_iff (hknown : w.KnowsSpent tx) {e : LedgerError} :
    classify w p tx = .error e ↔
      ∃ v, e = .amountOutOfRange tx.hash v ∧
        (tx.FirstFault v ∨
          tx.Sound ∧ FirstUnsound ((w.spentOutputs tx).map (·.value)) v) := by
  rw [classify_eq, bind_eq_error_iff, checkAmounts_eq_error_iff]
  simp only [bind_pure_eq_error_iff, Totals.of_eq_error_iff, WalletView.spent_eq_error_iff hknown]
  constructor
  · rintro (⟨v, hv, rfl⟩ | ⟨⟨⟩, hcheck, v, hv, rfl⟩)
    · exact ⟨v, rfl, .inl hv⟩
    · exact ⟨v, rfl, .inr ⟨checkAmounts_eq_ok_iff.mp hcheck, hv⟩⟩
  · rintro ⟨v, rfl, hv | ⟨hsound, hv⟩⟩
    · exact .inl ⟨v, hv, rfl⟩
    · exact .inr ⟨(), checkAmounts_eq_ok_iff.mpr hsound, v, hv, rfl⟩

/-- What is classified after the checks does not depend on how they went, only on that they
passed. -/
theorem classify_eq_map (w : WalletView) (p : Params) (tx : Transaction) :
    classify w p tx =
      (do tx.checkAmounts; w.spent tx).map fun _ => classification w p tx (w.totals tx) := by
  rw [classify_eq, Totals.of]
  cases tx.checkAmounts with
  | error e => rfl
  | ok checked =>
    cases hspent : w.spent tx with
    | error e => rfl
    | ok debit =>
      obtain ⟨_, _, rfl⟩ := WalletView.spent_eq_ok_iff.mp hspent
      rfl

/-- A transaction that is of any concern to the wallet is recorded by its rule. -/
theorem classification_eq (w : WalletView) (p : Params) (tx : Transaction) :
    classification w p tx (w.totals tx) =
      if w.concerns tx then
        let d := (Rule.of w tx).decomposition w tx p (w.totals tx)
        { shape := .of tx, records := Record.ofMovements tx d.movements, notices := d.notices }
      else { shape := .of tx, records := [], notices := [.notRelevant] } := by
  obtain ⟨hmovements, hnotices⟩ := decompose_agree w tx p
  rw [classification]
  simp only [hmovements, hnotices]

theorem classification_shape (w : WalletView) (p : Params) (tx : Transaction) :
    (classification w p tx (w.totals tx)).shape = .of tx := by
  rw [classification_eq]
  split <;> rfl

/-- The records of a transaction are the movements of its rule, numbered, if it is of any concern to
the wallet. -/
theorem classification_records (w : WalletView) (p : Params) (tx : Transaction) :
    (classification w p tx (w.totals tx)).records =
      if w.concerns tx then
        Record.ofMovements tx ((Rule.of w tx).decomposition w tx p (w.totals tx)).movements
      else [] := by
  rw [classification_eq]
  split <;> rfl

/-- Its notices are those of its rule, unless it is of no concern to the wallet. -/
theorem classification_notices (w : WalletView) (p : Params) (tx : Transaction) :
    (classification w p tx (w.totals tx)).notices =
      if w.concerns tx then ((Rule.of w tx).decomposition w tx p (w.totals tx)).notices
      else [.notRelevant] := by
  rw [classification_eq]
  split <;> rfl

end ShieldedLedger
