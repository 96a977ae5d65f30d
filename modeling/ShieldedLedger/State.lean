import ShieldedLedger.Text.Basic

/-!
# The state of a record

How far a record has come on its way to being confirmed, and the key that places it among the
others.

## Main definitions

* `TxState`: the stages, with the words shown for them
* `SortKey`: height, block reward, time and place, compared in that order
* `Status`: what is derived for one record at one tip

## Main results

* `SortKey.ble_iff`: the comparison as one of numbers
* `SortKey.ble_total`, `SortKey.ble_trans`, `SortKey.ble_antisymm`: keys are linearly ordered
-/

namespace ShieldedLedger

/-- The stages of a record. -/
inductive TxState where
  /-- Not final before the chain reaches a height. -/
  | openUntilBlock
  /-- Not final before a time. -/
  | openUntilDate
  /-- A block reward that must still wait. -/
  | immature
  /-- A block reward that must still wait and that no peer has asked for. -/
  | maturesWarning
  /-- A block reward whose block is not in the best chain. -/
  | notAccepted
  /-- A conflicting transaction was mined instead. -/
  | conflicted
  /-- Not mined, and no peer has asked for it for a long time. -/
  | offline
  /-- Not mined. -/
  | unconfirmed
  /-- Mined, but not deep enough. -/
  | confirming
  /-- Settled. -/
  | confirmed
  deriving DecidableEq, Repr

namespace TxState

/-- The words shown for a state. -/
def label : TxState → String
  | openUntilBlock => "open until block"
  | openUntilDate => "open until date"
  | immature => "immature"
  | maturesWarning => "not broadcast, may not mature"
  | notAccepted => "not accepted"
  | conflicted => "conflicted"
  | offline => "offline"
  | unconfirmed => "unconfirmed"
  | confirming => "confirming"
  | confirmed => "confirmed"

/-- Whether the record is settled. -/
def isConfirmed (s : TxState) : Bool := s = confirmed

end TxState

/-! ### Sort keys -/

/-- The height that stands for "not in a block": above that of every block. -/
def unminedHeight : Int := 2147483647

/-- Where a record stands among the others. -/
structure SortKey where
  /-- The height of the block, or `unminedHeight`. -/
  height : Int
  /-- Whether it is a block reward. -/
  coinbase : Bool
  /-- When the wallet received the transaction. -/
  timeReceived : UInt32
  /-- The place among the transaction's records, of which there are no more than 2 ^ 32. -/
  index : Nat
  deriving DecidableEq, Repr

namespace SortKey

/-- The first key does not stand behind the second. -/
def ble (a b : SortKey) : Bool :=
  decide (a.height < b.height) || (a.height == b.height &&
    (decide (a.coinbase.toNat < b.coinbase.toNat) || (a.coinbase == b.coinbase &&
      (decide (a.timeReceived.toNat < b.timeReceived.toNat) || (a.timeReceived == b.timeReceived &&
        decide (a.index ≤ b.index))))))

/-- The key as text: the fields in the order of comparison, numbers padded with zeros. -/
def text (k : SortKey) : String :=
  Decimal.padded 10 k.height ++ "-" ++ (if k.coinbase then "1" else "0") ++ "-"
    ++ Decimal.padded 10 k.timeReceived.toNat ++ "-" ++ Decimal.padded 3 k.index

/-- The comparison as one of numbers: the fields are compared in order, and a later field counts
only where the earlier ones agree. -/
theorem ble_iff (a b : SortKey) :
    a.ble b = true ↔
      a.height < b.height ∨ a.height = b.height ∧
        (a.coinbase.toNat < b.coinbase.toNat ∨ a.coinbase.toNat = b.coinbase.toNat ∧
          (a.timeReceived.toNat < b.timeReceived.toNat ∨
            a.timeReceived.toNat = b.timeReceived.toNat ∧ a.index ≤ b.index)) := by
  have hc : a.coinbase.toNat = b.coinbase.toNat ↔ a.coinbase = b.coinbase := by
    cases a.coinbase <;> cases b.coinbase <;> decide
  simp only [ble, Bool.or_eq_true, Bool.and_eq_true, decide_eq_true_eq, beq_iff_eq, hc,
    UInt32.toNat_inj]

theorem ble_total (a b : SortKey) : (a.ble b || b.ble a) = true := by
  rw [Bool.or_eq_true, ble_iff, ble_iff]
  omega

theorem ble_trans {a b c : SortKey} (h : a.ble b = true) (h' : b.ble c = true) :
    a.ble c = true := by
  rw [ble_iff] at *
  omega

theorem ble_antisymm {a b : SortKey} (h : a.ble b = true) (h' : b.ble a = true) : a = b := by
  rw [ble_iff] at h h'
  have hc : a.coinbase = b.coinbase := by
    have : a.coinbase.toNat = b.coinbase.toNat := by omega
    revert this
    cases a.coinbase <;> cases b.coinbase <;> decide
  have ht : a.timeReceived = b.timeReceived := UInt32.toNat_inj.1 (by omega)
  have hh : a.height = b.height := by omega
  have hi : a.index = b.index := by omega
  cases a
  cases b
  simp_all

end SortKey

/-! ### Status -/

/-- The status of one record at one tip. -/
structure Status where
  /-- The stage. -/
  state : TxState
  /-- Where the record stands among the others. -/
  sortKey : SortKey
  /-- How many blocks stand on the transaction. -/
  depth : Int
  /-- How many blocks are left for a block reward that must wait, else zero. -/
  maturesIn : Int
  /-- The blocks left until it is final, or the time after which it is, else zero. -/
  openFor : Int
  /-- Whether it may be counted in the balance. -/
  countsForBalance : Bool
  /-- The height of the tip. -/
  tip : Int
  deriving DecidableEq, Repr

end ShieldedLedger
