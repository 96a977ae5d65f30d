import ShieldedLedger.Proofs.Relevance

/-!
# The net value of movements

The records of a transaction stand for a change in the wallet's value. This file computes that
change for what each rule emits, whatever the number of movements: a rule that emits a list is
summed by the one function that makes its elements, and what is put on the first element of the list
counts once, if there is a first element.

The net of a record is put into a word, while movements are added up in the integers. The two agree
where what each movement gains fits into a word. A receipt of notes cannot count on that, so its
records are added up as they are.

## Main definitions

* `Movement.gain`, `netOf` — the net of one movement and of some
* `Classification.net` — the net of a whole classification

## Main results

* `sum_net_ofMovements` — records add up to what their movements do, if each gain fits
* `netOf_creditMovements`, `gain_selfMovement`, `netOf_debitMovements`, `gain_mixedMovement` — the
  four decompositions of the transparent side
* `sum_net_receiptMovements` — the receipt of notes
* `net_classification` — a classification nets what its rule does
-/

namespace ShieldedLedger

/-! ### Sums over movements -/

/-- What a movement brings, less what it takes. -/
def Movement.gain (m : Movement) : Int := m.credit + m.debit

/-- The change in the wallet's value that some movements stand for. -/
def netOf (ms : List Movement) : Int := (ms.map Movement.gain).sum

/-- The change in the wallet's value that the records of a transaction stand for. -/
def Classification.net (c : Classification) : Int := (c.records.map Record.net).sum

@[simp] theorem netOf_nil : netOf [] = 0 := rfl

@[simp] theorem netOf_cons (m : Movement) (ms : List Movement) :
    netOf (m :: ms) = m.gain + netOf ms := rfl

@[simp] theorem netOf_append (ms ns : List Movement) :
    netOf (ms ++ ns) = netOf ms + netOf ns := by
  simp [netOf]

/-- Whatever numbers the records are given, they carry what the movements carry. -/
theorem Record.map_numbered {β : Type} {tx : Transaction} {f : Record → β} {g : Movement → β}
    (h : ∀ i m, f (ofMovement tx i m) = g m) (number : Nat → Nat) (ms : List Movement) :
    (ms.mapIdx fun i m => ofMovement tx (number i) m).map f = ms.map g :=
  List.ext_getElem (by simp) fun i _ _ => by simp [h]

theorem Record.map_ofMovements {β : Type} {tx : Transaction} {f : Record → β} {g : Movement → β}
    (h : ∀ i m, f (ofMovement tx i m) = g m) (ms : List Movement) :
    (ofMovements tx ms).map f = ms.map g :=
  map_numbered h id ms

theorem map_net_ofMovements (tx : Transaction) (ms : List Movement) :
    (Record.ofMovements tx ms).map Record.net = ms.map fun m => wrap m.gain :=
  Record.map_ofMovements (fun _ _ => rfl) ms

/-- **Records add up to what their movements do**, if what each of these gains fits into a word. -/
theorem sum_net_ofMovements (tx : Transaction) {ms : List Movement}
    (h : ∀ m ∈ ms, FitsWord m.gain) :
    ((Record.ofMovements tx ms).map Record.net).sum = netOf ms := by
  rw [map_net_ofMovements, netOf]
  exact congrArg List.sum (List.map_congr_left fun m hm => (h m hm).wrap_eq)

/-- A change made to the first movement shows in the total once, if there is a first movement. -/
theorem netOf_modifyHead {f : Movement → Movement} {change : Int} {ms : List Movement}
    (hf : ∀ m ∈ ms, (f m).gain = m.gain + change) (hne : ms ≠ []) :
    netOf (ms.modifyHead f) = netOf ms + change := by
  cases ms with
  | nil => exact absurd rfl hne
  | cons m ms =>
    rw [List.modifyHead_cons, netOf_cons, netOf_cons, hf m List.mem_cons_self]
    omega

/-- Movements made one by one from some things add up to the sum over these things. -/
theorem netOf_map {α : Type} {f : α → Movement} {g : α → Int} (h : ∀ a, (f a).gain = g a)
    (l : List α) : netOf (l.map f) = (l.map g).sum := by
  rw [netOf, List.map_map]
  exact congrArg List.sum (List.map_congr_left fun a _ => h a)

variable {w : WalletView} {tx : Transaction}

/-! ### The transparent side -/

theorem gain_creditMovement (out : TxOutput) : (creditMovement w tx out).gain = out.value :=
  Int.add_zero _

theorem gain_debitMovement (out : TxOutput) : (debitMovement w tx out).gain = -out.value :=
  Int.zero_add _

/-- Receipts carry the owned inputs on the first of them. -/
theorem netOf_creditMovements (t : Totals) (hne : w.ownedOutputs tx ≠ []) :
    netOf (creditMovements w tx t) = (w.totals tx).credit - t.debit := by
  have hhead : ∀ m ∈ (w.ownedOutputs tx).map (creditMovement w tx),
      ({ m with debit := -t.debit } : Movement).gain = m.gain + -t.debit := by
    intro m hm
    obtain ⟨out, _, rfl⟩ := List.mem_map.mp hm
    rw [gain_creditMovement]
    rfl
  rw [creditMovements, netOf_modifyHead hhead (by simpa using hne), netOf_map gain_creditMovement]
  rfl

/-- The change is taken out on both sides, so it cancels. -/
theorem gain_selfMovement (t : Totals) : (selfMovement w tx t).gain = t.net := by
  simp only [Movement.gain, selfMovement, Totals.net]
  omega

theorem gain_mixedMovement (t : Totals) : (mixedMovement w tx t).gain = t.net :=
  Int.zero_add _

/-- A movement is charged with a fee only if there is one. -/
theorem gain_charged (fee : Int) (m : Movement) : (m.charged fee).gain = m.gain + -max fee 0 := by
  rw [Movement.charged]
  split
  · simp only [Movement.gain]
    omega
  · omega

theorem netOf_depositMovements (w : WalletView) (tx : Transaction) :
    netOf (depositMovements w tx) = -max (tx.poolIn - tx.poolOut) 0 := by
  simp only [depositMovements]
  split
  · simp only [netOf_cons, netOf_nil, Movement.gain]
    omega
  · simp only [netOf_nil]
    omega

/-- Payments are what the foreign outputs take, the fee and the deposit, each of the latter two only
where it is positive. -/
theorem netOf_debitMovements (t : Totals) (hne : w.foreignOutputs tx ≠ []) :
    netOf (debitMovements w tx t) =
      -((w.foreignOutputs tx).map (·.value)).sum - max (t.observedFee tx) 0
        - max (tx.poolIn - tx.poolOut) 0 := by
  have hpaid : netOf ((w.foreignOutputs tx).map (debitMovement w tx)) =
      -((w.foreignOutputs tx).map (·.value)).sum := by
    rw [netOf_map gain_debitMovement, List.sum_neg, List.map_map]
    rfl
  rw [debitMovements, netOf_append, netOf_depositMovements,
    netOf_modifyHead (fun m _ => gain_charged _ m) (by simpa using hne), hpaid]
  omega

/-! ### The pool -/

/-- A receipt adds up to the notes and its debit, less the change. The change is taken out in two
steps, but only what they come to has to fit. -/
theorem sum_net_receiptMovements (tx : Transaction) (kind : RecordKind) (first : Note)
    {rest : List Note} (hrest : ∀ note ∈ rest, FitsWord note.amount) (debit change : Int) :
    ((Record.ofMovements tx (receiptMovements kind (first :: rest) debit change)).map
        Record.net).sum =
      wrap (first.amount + (debit - change)) + (rest.map (·.amount)).sum := by
  have hfirst : wrap (wrap (first.amount - change) + debit) =
      wrap (first.amount + (debit - change)) := by
    rw [wrap_wrap_add]
    congr 1
    omega
  have hothers : ∀ note ∈ rest,
      wrap (Movement.mk kind note.address 0 note.amount 0 false).gain = note.amount := by
    intro note hnote
    show wrap (note.amount + 0) = note.amount
    rw [Int.add_zero, (hrest note hnote).wrap_eq]
  rw [map_net_ofMovements, receiptMovements, List.map_cons, List.modifyHead_cons, List.map_cons,
    List.sum_cons, List.map_map]
  exact congrArg₂ (· + ·) hfirst (congrArg List.sum (List.map_congr_left hothers))

/-! ### Whole classifications -/

theorem net_classification (w : WalletView) (p : Params) (tx : Transaction) :
    (classification w p tx (w.totals tx)).net =
      if w.concerns tx then
        ((Record.ofMovements tx
          ((Rule.of w tx).decomposition w tx p (w.totals tx)).movements).map Record.net).sum
      else 0 := by
  rw [Classification.net, classification_records]
  split
  · rfl
  · rfl

/-- A transaction of no concern to the wallet neither brings nor takes anything. -/
theorem WalletView.net_eq_zero_of_not_concerns (h : ¬w.concerns tx) : (w.totals tx).net = 0 := by
  obtain ⟨hin, hout⟩ := not_mine_of_not_concerns h
  rw [Totals.net, credit_eq_zero hout, debit_eq_zero hin]
  rfl

end ShieldedLedger
