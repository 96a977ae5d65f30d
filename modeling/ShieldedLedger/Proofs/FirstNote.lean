import ShieldedLedger.Proofs.ResolvedNotes

/-!
# The first note alone

A wallet may ask for one note of a transaction and leave the others. The search walks the addresses
that can be spent from, one history after the other, and ends at the first entry that the
transaction created. The full search makes the same walk to its end. So the note found is the head
of all notes, and it is absent only where nothing is found at all.

An address may be listed twice and is then walked twice, and an entry may name any address: it is
shown under the one whose history was walked. What the walk ends at is therefore said in terms of
the two lists alone, by what stands before it in each.

## Main definitions

* `WalletView.Lacks`, `WalletView.IsFirstAt` — an address holds nothing that the transaction
  created, or the note comes first in its history
* `WalletView.IsFirstNote` — the note at which a walk ends

## Main results

* `WalletView.firstNoteOf?_eq_none_iff`, `WalletView.firstNoteOf?_eq_some_iff` — where a walk ends
* `WalletView.firstNoteOf?_eq_head?` — the walk that ends early, against the full one
* `WalletView.firstNoteOf?_agrees` — the two searches agree
* `WalletSnapshot.firstNoteOf?_view` — the first note of a stored wallet
-/

namespace ShieldedLedger

namespace WalletView

variable {w : WalletView} {txid : TxHash} {address : String} {note : Note}

/-! ### At one address -/

/-- Nothing at the address was created by the transaction. -/
def Lacks (w : WalletView) (txid : TxHash) (address : String) : Prop :=
  ∀ entry ∈ w.receivedNotes address minNoteDepth maxNoteDepth, entry.txid ≠ txid

/-- The note stands for the first entry in the history of its address that the transaction created.
The entry may name another address. -/
def IsFirstAt (w : WalletView) (txid : TxHash) (note : Note) : Prop :=
  ∃ passed entry rest,
    w.receivedNotes note.address minNoteDepth maxNoteDepth = passed ++ entry :: rest ∧
    (∀ earlier ∈ passed, earlier.txid ≠ txid) ∧
    entry.txid = txid ∧ note.txid = txid ∧ note.amount = entry.amount

/-- Ending at the first entry that matches, against collecting all of them. -/
theorem head?_notesAt (w : WalletView) (txid : TxHash) (address : String) :
    (w.notesAt txid address).head? =
      ((w.receivedNotes address minNoteDepth maxNoteDepth).find? (·.txid = txid)).map
        ({ · with address }) := by
  rw [notesAt, List.head?_map, List.head?_filter]

theorem head?_notesAt_eq_none_iff :
    (w.notesAt txid address).head? = none ↔ w.Lacks txid address := by
  rw [head?_notesAt, Option.map_eq_none_iff, List.find?_eq_none]
  exact forall₂_congr fun _ _ => not_congr decide_eq_true_iff

theorem head?_notesAt_eq_some_iff :
    (w.notesAt txid address).head? = some note ↔
      note.address = address ∧ w.IsFirstAt txid note := by
  rw [head?_notesAt, Option.map_eq_some_iff]
  constructor
  · rintro ⟨entry, hfind, rfl⟩
    obtain ⟨hentry, passed, rest, hhistory, hpassed⟩ := List.find?_eq_some_iff_append.mp hfind
    have htxid : entry.txid = txid := of_decide_eq_true hentry
    exact ⟨rfl, passed, entry, rest, hhistory, by simpa using hpassed, htxid, htxid, rfl⟩
  · rintro ⟨rfl, passed, entry, rest, hhistory, hpassed, hentry, htxid, hamount⟩
    refine ⟨entry, List.find?_eq_some_iff_append.mpr ?_, ?_⟩
    · exact ⟨decide_eq_true hentry, passed, rest, hhistory, by simpa using hpassed⟩
    · rw [hentry, ← htxid, ← hamount]

/-! ### Address by address -/

theorem firstNoteOf?_eq_findSome? (w : WalletView) (txid : TxHash) :
    w.firstNoteOf? txid =
      w.spendingAddresses.findSome? fun address => (w.notesAt txid address).head? := by
  simp only [head?_notesAt, firstNoteOf?]

/-- **The walk that ends early finds the head of what the full one collects.** An address without a
match adds nothing to the list, and the search goes on behind it. -/
theorem firstNoteOf?_eq_head? (w : WalletView) (txid : TxHash) :
    w.firstNoteOf? txid = (w.notesOf txid).head? := by
  rw [firstNoteOf?_eq_findSome?, notesOf, List.head?_flatMap]

theorem firstNoteOf?_eq_none_iff :
    w.firstNoteOf? txid = none ↔ ∀ address ∈ w.spendingAddresses, w.Lacks txid address := by
  rw [firstNoteOf?_eq_findSome?, List.findSome?_eq_none_iff]
  exact forall₂_congr fun _ _ => head?_notesAt_eq_none_iff

/-- The note at which a walk for the transaction ends. -/
structure IsFirstNote (w : WalletView) (txid : TxHash) (note : Note) : Prop where
  /-- Its address can be spent from, and the addresses before it hold nothing of the transaction. -/
  address_split : ∃ before after, w.spendingAddresses = before ++ note.address :: after ∧
    ∀ address ∈ before, w.Lacks txid address
  /-- It is the first note of the transaction at its address. -/
  isFirstAt : w.IsFirstAt txid note

/-- **The note found is the one at which the walk ends.** -/
theorem firstNoteOf?_eq_some_iff : w.firstNoteOf? txid = some note ↔ w.IsFirstNote txid note := by
  rw [firstNoteOf?_eq_findSome?, List.findSome?_eq_some_iff]
  constructor
  · rintro ⟨before, address, after, haddresses, hfound, hbefore⟩
    obtain ⟨rfl, hfirst⟩ := head?_notesAt_eq_some_iff.mp hfound
    exact ⟨⟨before, after, haddresses, fun a ha => head?_notesAt_eq_none_iff.mp (hbefore a ha)⟩,
      hfirst⟩
  · rintro ⟨⟨before, after, haddresses, hbefore⟩, hfirst⟩
    exact ⟨before, note.address, after, haddresses, head?_notesAt_eq_some_iff.mpr ⟨rfl, hfirst⟩,
      fun a ha => head?_notesAt_eq_none_iff.mpr (hbefore a ha)⟩

/-! ### The two searches -/

/-- A search that found something has a first note: of the matches of a list, only those of the
empty one have none. -/
theorem first?_resolve_eq_none_iff :
    (w.resolve txid).first? = none ↔ w.resolve txid = .none := by
  rw [resolve, NoteMatches.first?_ofList, NoteMatches.ofList_eq_none_iff, List.head?_eq_none_iff,
    List.length_eq_zero_iff]

/-- **The search for the first note agrees with the full search.** Whatever the wallet answers, the
note it finds is the first of all matches, and it finds none exactly if nothing matches. What either
search comes to can be read off the histories: the first match is where a walk through them ends,
and nothing matches if no address holds anything of the transaction. -/
theorem firstNoteOf?_agrees (w : WalletView) (txid : TxHash) :
    w.firstNoteOf? txid = (w.resolve txid).first? ∧
    (w.firstNoteOf? txid = none ↔ w.resolve txid = .none) ∧
    (∀ note, (w.resolve txid).first? = some note ↔ w.IsFirstNote txid note) ∧
    (w.resolve txid = .none ↔ ∀ address ∈ w.spendingAddresses, w.Lacks txid address) := by
  have hfirst : w.firstNoteOf? txid = (w.resolve txid).first? := by
    rw [firstNoteOf?_eq_head?, resolve, NoteMatches.first?_ofList]
  have hnone : w.firstNoteOf? txid = none ↔ w.resolve txid = .none := by
    rw [hfirst]
    exact first?_resolve_eq_none_iff
  refine ⟨hfirst, hnone, fun note => ?_, hnone.symm.trans firstNoteOf?_eq_none_iff⟩
  rw [← hfirst]
  exact firstNoteOf?_eq_some_iff

/-- The first address holds nothing; the second one is listed twice, its history begins with a note
of another transaction, and the note found names an address that is not listed. -/
example :
    let txid : TxHash := ⟨List.replicate 32 21, rfl⟩
    let w : WalletView := { WalletSnapshot.empty.view with
      spendingAddresses := ["unused", "saving", "saving"]
      receivedNotes := fun address _ _ => if address = "saving" then
        [⟨⟨List.replicate 32 22, rfl⟩, 5, "saving"⟩, ⟨txid, 7, "elsewhere"⟩, ⟨txid, 9, "saving"⟩]
        else [] }
    w.firstNoteOf? txid = some ⟨txid, 7, "saving"⟩ ∧ (w.resolve txid).length = 4 := by decide

end WalletView

/-! ### In a stored wallet -/

/-- **The first note of a stored wallet is the first one filed that counts.** -/
theorem WalletSnapshot.firstNoteOf?_view {w : WalletSnapshot}
    (h : ∀ f ∈ w.filed, f.note.depth ≤ maxNoteDepth) (txid : TxHash) :
    w.view.firstNoteOf? txid = (w.filed.find? (w.Counts txid)).map FiledNote.shown := by
  rw [WalletView.firstNoteOf?_eq_head?, notesOf_view h, List.head?_map, List.head?_filter]

end ShieldedLedger
