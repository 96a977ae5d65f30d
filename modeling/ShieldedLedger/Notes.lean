import ShieldedLedger.View

/-!
# The wallet's own shielded notes

Shielded amounts cannot be seen in a transaction. What the wallet received is found by walking the
history of every address it can spend from and keeping the notes that the transaction created.

## Main definitions

* `WalletView.notesOf`: those notes, by address and then by history
* `WalletView.firstNoteOf?`: the first of them, found without the others
* `NoteMatches`: how many were found
-/

namespace ShieldedLedger

/-- The least depth of a note that counts as received. -/
def minNoteDepth : Int := 0

/-- The greatest depth that a note can have. -/
def maxNoteDepth : Int := 2147483647

/-- The notes found for one transaction. -/
inductive NoteMatches where
  | none
  | single (note : Note)
  | several (notes : List Note)
  deriving DecidableEq, Repr

namespace NoteMatches

/-- The matches of a list of notes, by their number. -/
def ofList : List Note → NoteMatches
  | [] => .none
  | [note] => .single note
  | notes => .several notes

/-- The notes, in order. -/
def toList : NoteMatches → List Note
  | .none => []
  | .single note => [note]
  | .several notes => notes

/-- The first note, if there is any. -/
def first? (m : NoteMatches) : Option Note := m.toList.head?

/-- How many notes there are. -/
def length (m : NoteMatches) : Nat := m.toList.length

/-- The sum of their amounts, in words. -/
def total (m : NoteMatches) : Int := sumInWords (m.toList.map (·.amount))

/-- Whether nothing matched. -/
def isNone (m : NoteMatches) : Bool := m = .none

@[simp] theorem toList_ofList (notes : List Note) : (ofList notes).toList = notes := by
  match notes with
  | [] | [_] | _ :: _ :: _ => rfl

@[simp] theorem first?_ofList (notes : List Note) : (ofList notes).first? = notes.head? := by
  rw [first?, toList_ofList]

end NoteMatches

namespace WalletView

/-- The notes at one address that a transaction created. A note is shown under the address it was
asked for. -/
def notesAt (w : WalletView) (txid : TxHash) (address : String) : List Note :=
  ((w.receivedNotes address minNoteDepth maxNoteDepth).filter (·.txid = txid)).map
    ({ · with address })

/-- All notes that a transaction created at addresses the wallet can spend from. -/
def notesOf (w : WalletView) (txid : TxHash) : List Note :=
  w.spendingAddresses.flatMap (w.notesAt txid)

/-- The matches for a transaction. -/
def resolve (w : WalletView) (txid : TxHash) : NoteMatches := .ofList (w.notesOf txid)

/-- The first note that a transaction created, searched address by address. -/
def firstNoteOf? (w : WalletView) (txid : TxHash) : Option Note :=
  w.spendingAddresses.findSome? fun address =>
    ((w.receivedNotes address minNoteDepth maxNoteDepth).find? (·.txid = txid)).map
      ({ · with address })

end WalletView

end ShieldedLedger
