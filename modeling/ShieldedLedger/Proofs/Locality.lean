import Mathlib.Data.List.Basic
import ShieldedLedger.Proofs.Alike
import ShieldedLedger.Proofs.HexText
import ShieldedLedger.Proofs.MapLaws
import ShieldedLedger.Snapshot

/-!
# What a wallet learns elsewhere

A classification asks the wallet six kinds of questions, and asks them only about the inputs, the
outputs and the hash of the transaction. This file says which answers those are, and shows that
nothing else of the wallet matters: an update of a wallet that touches none of them leaves the
classification as it is, and so does any number of such updates one after the other.

Two updates reach further than they seem to. An address counts as touched also if an output that the
transaction spends is paid to it, although that output is none of its own. And a note added to an
address makes the wallet able to spend from it, so that notes which it could only view until then
are found from now on; those notes must not come from the transaction.

## Main definitions

* `WalletView.AgreesOn` — two wallets answer alike what a transaction asks
* `WalletUpdate`, `WalletUpdate.Unrelated` — the updates of a wallet, and which of them do not touch
  a transaction
* `WalletUpdate.AllUnrelated` — updates of which each one is unrelated when its turn comes

## Main results

* `WalletView.AgreesOn.classify_eq` — a classification depends on those answers alone
* `WalletUpdate.Unrelated.agreesOn` — an unrelated update leaves them as they are
* `classify_foldl_apply` — unrelated updates leave the classification as it is
-/

namespace ShieldedLedger

/-! ### What a classification depends on -/

/-- Two wallets give the same answers to everything that the classification of a transaction
asks. -/
structure WalletView.AgreesOn (w w' : WalletView) (tx : Transaction) : Prop where
  /-- How much of each input is owned. -/
  inputOwnership_eq : ∀ i ∈ tx.inputs, w'.inputOwnership i = w.inputOwnership i
  /-- What each input spends. -/
  previousOutput_eq : ∀ i ∈ tx.inputs, w'.previousOutput i.prevout = w.previousOutput i.prevout
  /-- How much of each output is owned. -/
  outputOwnership_eq : ∀ out ∈ tx.outputs, w'.outputOwnership out = w.outputOwnership out
  /-- Which outputs are change. -/
  isChange_eq : ∀ out ∈ tx.outputs, w'.isChange out = w.isChange out
  /-- Which notes come from the transaction. -/
  notesOf_eq : w'.notesOf tx.hash = w.notesOf tx.hash

namespace WalletView.AgreesOn

variable {w w' : WalletView} {tx : Transaction}

/-- Two such wallets see the same in the transaction. -/
theorem alike (h : w.AgreesOn w' tx) : Alike w w' tx tx where
  hash_eq := rfl
  timeReceived_eq := rfl
  isCoinbase_eq := rfl
  from_eq := rfl
  to_eq := rfl
  outputs_eq := rfl
  outputOwnership_eq := h.outputOwnership_eq
  isEmpty_inputs := rfl
  any_inputs := any_congr_left h.inputOwnership_eq
  hasShielded_eq := rfl
  poolIn_eq := rfl
  poolOut_eq := rfl
  hasNoteData_eq := rfl
  notesOf_eq := h.notesOf_eq

theorem changeOutputs_eq (h : w.AgreesOn w' tx) : w'.changeOutputs tx = w.changeOutputs tx := by
  rw [changeOutputs, changeOutputs, h.alike.ownedOutputs_eq]
  exact List.filter_congr fun out hout => h.isChange_eq out (List.mem_of_mem_filter hout)

/-- The owned inputs are valued alike, and where one of them cannot be valued, it is the same
one. -/
theorem spent_eq (h : w.AgreesOn w' tx) : w'.spent tx = w.spent tx := by
  suffices hfold : ∀ inputs : List TxInput, inputs ⊆ tx.inputs → ∀ total : Int,
      inputs.foldlM (w'.addSpent tx.hash) total = inputs.foldlM (w.addSpent tx.hash) total from
    hfold tx.inputs (List.Subset.refl _) 0
  intro inputs hsub
  induction inputs with
  | nil => exact fun _ => rfl
  | cons i inputs ih =>
    intro total
    obtain ⟨hi, hrest⟩ := List.cons_subset.mp hsub
    have hstep : w'.addSpent tx.hash total i = w.addSpent tx.hash total i := by
      rw [addSpent, addSpent, h.inputOwnership_eq i hi, h.previousOutput_eq i hi]
    rw [List.foldlM_cons, List.foldlM_cons, hstep]
    exact bind_congr (ih hrest)

theorem totals_eq (h : w.AgreesOn w' tx) : Totals.of w' tx = Totals.of w tx := by
  rw [Totals.of, Totals.of, h.spent_eq, h.alike.ownedOutputs_eq, h.changeOutputs_eq]

/-- **A classification depends only on what the transaction asks.** -/
theorem classify_eq (h : w.AgreesOn w' tx) (p : Params) :
    classify w' p tx = classify w p tx := by
  rw [ShieldedLedger.classify_eq, ShieldedLedger.classify_eq, h.totals_eq,
    h.alike.classification_eq]

end WalletView.AgreesOn

/-! ### What a wallet holds -/

namespace WalletSnapshot

variable {w w' : WalletSnapshot} {tx : Transaction}

/-- The outputs whose scripts a transaction asks about: its own, and those that the wallet knows to
be spent by it. -/
def askedOutputs (w : WalletSnapshot) (tx : Transaction) : List TxOutput :=
  tx.outputs ++ tx.inputs.filterMap fun i => w.output? i.prevout

/-- The notes stored under an address. -/
def history (w : WalletSnapshot) (address : String) : List StoredNote :=
  (w.notes.get? address).getD []

/-- The view answers alike once the wallet holds alike what the answers are taken from. -/
theorem agreesOn_view (hspent : ∀ i ∈ tx.inputs, w'.output? i.prevout = w.output? i.prevout)
    (hscript : ∀ out ∈ w.askedOutputs tx,
      w'.scriptOwnership out.script = w.scriptOwnership out.script)
    (hchange : ∀ out ∈ tx.outputs, w'.view.isChange out = w.view.isChange out)
    (hnotes : w'.view.notesOf tx.hash = w.view.notesOf tx.hash) : w.view.AgreesOn w'.view tx where
  inputOwnership_eq i hi := by
    change ((w'.output? i.prevout).map _).getD _ = ((w.output? i.prevout).map _).getD _
    rw [hspent i hi]
    refine congrArg (Option.getD · _) (Option.map_congr fun out hout => hscript out ?_)
    exact List.mem_append_right _ (List.mem_filterMap.mpr ⟨i, hi, hout⟩)
  previousOutput_eq := hspent
  outputOwnership_eq out hout := hscript out (List.mem_append_left _ hout)
  isChange_eq := hchange
  notesOf_eq := hnotes

/-! ### Scripts and outputs -/

theorem scriptOwnership_own_of_ne {out : TxOutput} {address : String}
    (h : out.destination? ≠ some address) (ownership : Ownership) :
    (w.own address ownership).scriptOwnership out.script = w.scriptOwnership out.script := by
  obtain ⟨value, destination | bytes⟩ := out
  · have hne : destination ≠ address := fun heq => h (congrArg some heq)
    exact congrArg (Option.getD · _) (SortedMap.get?_insert_of_ne _ hne _)
  · rfl

/-- Different scripts have different texts, so no other script is touched. -/
theorem scriptOwnership_ownScript_of_ne {script : Script} {bytes : List UInt8}
    (h : script ≠ .raw bytes) (ownership : Ownership) :
    (w.ownScript bytes ownership).scriptOwnership script = w.scriptOwnership script := by
  obtain destination | bytes' := script
  · rfl
  · have hne : Hex.encode bytes' ≠ Hex.encode bytes := fun heq =>
      h (congrArg Script.raw (Hex.encode_injective heq))
    exact congrArg (Option.getD · _) (SortedMap.get?_insert_of_ne _ hne _)

theorem isChange_ownChange_of_ne {out : TxOutput} {address : String}
    (h : out.destination? ≠ some address) :
    (w.ownChange address).view.isChange out = w.view.isChange out := by
  refine congrArg (Option.getD · false) (Option.map_congr fun destination hdestination => ?_)
  have hne : destination ≠ address := fun heq => h (heq ▸ hdestination)
  exact congrArg Option.isSome (SortedMap.get?_insert_of_ne _ hne _)

/-- An output at another place is not found, and one at a known place comes too late. -/
theorem output?_addCoin {place place' : OutPoint}
    (h : place' ≠ place ∨ ∃ coin ∈ w.coins, coin.outpoint = place) (output : TxOutput) :
    (w.addCoin place output).output? place' = w.output? place' := by
  rw [output?, output?, addCoin, List.find?_append]
  refine congrArg (Option.map _) ?_
  by_cases hne : place' = place
  · obtain ⟨coin, hcoin, hplace⟩ := h.resolve_left (not_not_intro hne)
    have hsome : (w.coins.find? (·.outpoint = place')).isSome :=
      List.find?_isSome.mpr ⟨coin, hcoin, decide_eq_true (hplace.trans hne.symm)⟩
    exact Option.or_of_isSome hsome
  · have hnone : [Coin.mk place output].find? (·.outpoint = place') = none := by
      simpa using Ne.symm hne
    rw [hnone, Option.or_none]

/-! ### Notes -/

/-- The notes found for a transaction at an address, from what is stored there. -/
theorem notesAt_view (w : WalletSnapshot) (txid : TxHash) (address : String) :
    w.view.notesAt txid address =
      ((w.history address).filter fun note =>
        note.txid = txid && (minNoteDepth ≤ note.depth && note.depth ≤ maxNoteDepth)).map
        fun note => { txid := note.txid, amount := note.amount, address } := by
  rw [WalletView.notesAt]
  change (((((w.notes.get? address).getD []).filter _).map _).filter _).map _ = _
  rw [List.filter_map, List.map_map, List.filter_filter]
  rfl

theorem history_addViewingNote_self (w : WalletSnapshot) (address : String) (note : StoredNote) :
    (w.addViewingNote address note).history address = w.history address ++ [note] :=
  congrArg (Option.getD · []) (SortedMap.get?_insert_self _ _ _)

theorem history_addViewingNote_of_ne {address address' : String} (h : address' ≠ address)
    (note : StoredNote) : (w.addViewingNote address note).history address' = w.history address' :=
  congrArg (Option.getD · []) (SortedMap.get?_insert_of_ne _ h _)

/-- A note of another transaction, or at another address, is not found. -/
theorem notesAt_addViewingNote {txid : TxHash} {address address' : String} {note : StoredNote}
    (h : note.txid ≠ txid ∨ address' ≠ address) :
    (w.addViewingNote address note).view.notesAt txid address' = w.view.notesAt txid address' := by
  rw [notesAt_view, notesAt_view]
  by_cases hne : address' = address
  · subst hne
    have htxid : note.txid ≠ txid := h.resolve_right (not_not_intro rfl)
    rw [history_addViewingNote_self, List.filter_append]
    simp [htxid]
  · rw [history_addViewingNote_of_ne hne]

/-- Nothing is found at an address whose notes come from elsewhere. -/
theorem notesAt_eq_nil {txid : TxHash} {address : String}
    (h : ∀ note ∈ w.history address, 0 ≤ note.depth → note.txid ≠ txid) :
    w.view.notesAt txid address = [] := by
  rw [notesAt_view, List.map_eq_nil_iff, List.filter_eq_nil_iff]
  intro note hnote hfound
  simp only [Bool.and_eq_true, decide_eq_true_eq] at hfound
  obtain ⟨htxid, hdepth, -⟩ := hfound
  exact h note hnote hdepth htxid

/-- A note that the wallet can only view is not found. -/
theorem notesOf_addViewingNote {txid : TxHash} {address : String} {note : StoredNote}
    (h : note.txid ≠ txid ∨ ¬w.spendingKeys.contains address) :
    (w.addViewingNote address note).view.notesOf txid = w.view.notesOf txid := by
  refine List.flatMap_congr fun address' hkey => notesAt_addViewingNote ?_
  refine h.imp_right fun hother => ?_
  rintro rfl
  exact hother (SortedMap.mem_keys_iff.mp hkey)

/-- A note of another transaction is not found, and the key that comes with it finds nothing
else. -/
theorem notesOf_addNote {txid : TxHash} {address : String} {note : StoredNote}
    (hnote : note.txid ≠ txid)
    (h : w.spendingKeys.contains address ∨
      ∀ stored ∈ w.history address, 0 ≤ stored.depth → stored.txid ≠ txid) :
    (w.addNote address note).view.notesOf txid = w.view.notesOf txid := by
  have hnotes : (w.addNote address note).view.notesAt txid = w.view.notesAt txid :=
    funext fun _ => notesAt_addViewingNote (.inl hnote)
  change (SortedSet.add w.spendingKeys address).keys.flatMap
    ((w.addNote address note).view.notesAt txid) = w.spendingKeys.keys.flatMap _
  rw [hnotes]
  rcases h with hkey | hother
  · rw [SortedSet.add_of_contains hkey]
  · exact SortedMap.flatMap_keys_insert _ (notesAt_eq_nil hother) _

end WalletSnapshot

/-! ### Updates -/

/-- The ways in which a wallet learns something. -/
inductive WalletUpdate where
  /-- It owns an address so much. -/
  | own (address : String) (ownership : Ownership)
  /-- It uses an address for change. -/
  | ownChange (address : String)
  /-- It owns a script so much. -/
  | ownScript (script : List UInt8) (ownership : Ownership)
  /-- It has seen an output. -/
  | addCoin (place : OutPoint) (output : TxOutput)
  /-- It received a note at an address that it can spend from. -/
  | addNote (address : String) (note : StoredNote)
  /-- It received a note at an address that it can only view. -/
  | addViewingNote (address : String) (note : StoredNote)
  deriving DecidableEq, Repr

namespace WalletUpdate

/-- The wallet after an update. -/
def apply (w : WalletSnapshot) : WalletUpdate → WalletSnapshot
  | own address ownership => w.own address ownership
  | ownChange address => w.ownChange address
  | ownScript script ownership => w.ownScript script ownership
  | addCoin place output => w.addCoin place output
  | addNote address note => w.addNote address note
  | addViewingNote address note => w.addViewingNote address note

/-- The update is about nothing that the transaction asks the wallet. -/
def Unrelated (w : WalletSnapshot) (tx : Transaction) : WalletUpdate → Prop
  | own address _ | ownChange address =>
    ∀ out ∈ w.askedOutputs tx, out.destination? ≠ some address
  | ownScript script _ => ∀ out ∈ w.askedOutputs tx, out.script ≠ .raw script
  | addCoin place _ =>
    (∀ i ∈ tx.inputs, i.prevout ≠ place) ∨ ∃ coin ∈ w.coins, coin.outpoint = place
  | addNote address note =>
    note.txid ≠ tx.hash ∧ (w.spendingKeys.contains address ∨
      ∀ stored ∈ w.history address, 0 ≤ stored.depth → stored.txid ≠ tx.hash)
  | addViewingNote address note => note.txid ≠ tx.hash ∨ ¬w.spendingKeys.contains address

instance (w : WalletSnapshot) (tx : Transaction) : (u : WalletUpdate) → Decidable (u.Unrelated w tx)
  | own address _ | ownChange address =>
    inferInstanceAs (Decidable (∀ out ∈ w.askedOutputs tx, out.destination? ≠ some address))
  | ownScript script _ =>
    inferInstanceAs (Decidable (∀ out ∈ w.askedOutputs tx, out.script ≠ .raw script))
  | addCoin place _ =>
    inferInstanceAs (Decidable
      ((∀ i ∈ tx.inputs, i.prevout ≠ place) ∨ ∃ coin ∈ w.coins, coin.outpoint = place))
  | addNote address note =>
    inferInstanceAs (Decidable (note.txid ≠ tx.hash ∧ (w.spendingKeys.contains address ∨
      ∀ stored ∈ w.history address, 0 ≤ stored.depth → stored.txid ≠ tx.hash)))
  | addViewingNote address note =>
    inferInstanceAs (Decidable (note.txid ≠ tx.hash ∨ ¬w.spendingKeys.contains address))

/-- Each update is unrelated to the transaction when its turn comes. -/
def AllUnrelated (tx : Transaction) : WalletSnapshot → List WalletUpdate → Prop
  | _, [] => True
  | w, u :: us => u.Unrelated w tx ∧ AllUnrelated tx (u.apply w) us

instance (tx : Transaction) : (w : WalletSnapshot) → (us : List WalletUpdate) →
    Decidable (AllUnrelated tx w us)
  | _, [] => .isTrue trivial
  | w, u :: us =>
    have := instDecidableAllUnrelated tx (u.apply w) us
    inferInstanceAs (Decidable (u.Unrelated w tx ∧ AllUnrelated tx (u.apply w) us))

variable {w : WalletSnapshot} {tx : Transaction}

/-- **An unrelated update changes no answer.** -/
theorem Unrelated.agreesOn {u : WalletUpdate} (h : u.Unrelated w tx) :
    w.view.AgreesOn (u.apply w).view tx := by
  cases u with
  | own address ownership =>
    exact WalletSnapshot.agreesOn_view (fun _ _ => rfl)
      (fun out hout => WalletSnapshot.scriptOwnership_own_of_ne (h out hout) ownership)
      (fun _ _ => rfl) rfl
  | ownChange address =>
    exact WalletSnapshot.agreesOn_view (fun _ _ => rfl)
      (fun out hout => WalletSnapshot.scriptOwnership_own_of_ne (h out hout) .spendable)
      (fun out hout =>
        WalletSnapshot.isChange_ownChange_of_ne (h out (List.mem_append_left _ hout)))
      rfl
  | ownScript script ownership =>
    exact WalletSnapshot.agreesOn_view (fun _ _ => rfl)
      (fun out hout => WalletSnapshot.scriptOwnership_ownScript_of_ne (h out hout) ownership)
      (fun _ _ => rfl) rfl
  | addCoin place output =>
    exact WalletSnapshot.agreesOn_view
      (fun i hi => WalletSnapshot.output?_addCoin (h.imp_left fun hplace => hplace i hi) output)
      (fun _ _ => rfl) (fun _ _ => rfl) rfl
  | addNote address note =>
    exact WalletSnapshot.agreesOn_view (fun _ _ => rfl) (fun _ _ => rfl) (fun _ _ => rfl)
      (WalletSnapshot.notesOf_addNote h.1 h.2)
  | addViewingNote address note =>
    exact WalletSnapshot.agreesOn_view (fun _ _ => rfl) (fun _ _ => rfl) (fun _ _ => rfl)
      (WalletSnapshot.notesOf_addViewingNote h)

end WalletUpdate

/-- **Unrelated updates leave the classification of a transaction as it is**, whether it succeeds or
fails, and however many of them come one after the other. -/
theorem classify_foldl_apply {w : WalletSnapshot} {tx : Transaction} {us : List WalletUpdate}
    (h : WalletUpdate.AllUnrelated tx w us) (p : Params) :
    classify (us.foldl WalletUpdate.apply w).view p tx = classify w.view p tx := by
  induction us generalizing w with
  | nil => rfl
  | cons u us ih =>
    obtain ⟨hu, hus⟩ := h
    rw [List.foldl_cons, ih hus, hu.agreesOn.classify_eq]

/-- A transaction that spends an output of 100 and moves 65 into a note. -/
def Transaction.sampleSaving : Transaction :=
  { Transaction.blank ⟨List.replicate 32 11, rfl⟩ 0 with
    inputs := [⟨⟨List.replicate 32 12, rfl⟩, 0⟩]
    outputs := [⟨30, .address "change"⟩]
    shielded := [⟨65, 0, []⟩]
    noteData := [⟨0, 0⟩] }

/-- The wallet that sent it. -/
def WalletSnapshot.sampleSender : WalletSnapshot :=
  (((WalletSnapshot.empty.own "mine" .spendable).ownChange "change").addCoin
    ⟨⟨List.replicate 32 12, rfl⟩, 0⟩ ⟨100, .address "mine"⟩).addNote
    "note" ⟨Transaction.sampleSaving.hash, 65, 1⟩

/-- Updates of every kind that do not touch it: another output at a known place, a note beside its
own, and a note of its own that can only be viewed. -/
def WalletUpdate.samples : List WalletUpdate :=
  [.own "other" .watchOnly, .ownChange "spare", .ownScript [1, 2] .spendable,
    .addCoin ⟨⟨List.replicate 32 12, rfl⟩, 0⟩ ⟨7, .raw [1, 2]⟩,
    .addNote "note" ⟨⟨List.replicate 32 13, rfl⟩, 40, 2⟩,
    .addViewingNote "viewed" ⟨Transaction.sampleSaving.hash, 9, 1⟩]

theorem classify_foldl_apply_samples :
    WalletUpdate.AllUnrelated .sampleSaving .sampleSender WalletUpdate.samples ∧
      classify (WalletUpdate.samples.foldl WalletUpdate.apply .sampleSender).view .standard
          .sampleSaving =
        classify WalletSnapshot.sampleSender.view .standard .sampleSaving :=
  ⟨by decide, classify_foldl_apply (by decide) .standard⟩

/-- Had the wallet been able to view the note before, a later note at the same address would have
made it the wallet's own. -/
example :
    let viewing := WalletSnapshot.empty.addViewingNote "note" ⟨Transaction.sampleSaving.hash, 65, 1⟩
    let able := viewing.addNote "note" ⟨⟨List.replicate 32 13, rfl⟩, 40, 2⟩
    viewing.view.notesOf Transaction.sampleSaving.hash = [] ∧
      (able.view.notesOf Transaction.sampleSaving.hash).map (·.amount) = [65] := by decide

end ShieldedLedger
