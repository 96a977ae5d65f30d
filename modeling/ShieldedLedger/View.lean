import ShieldedLedger.Transaction

/-!
# The views a ledger is computed from

The wallet, the chain and the network are consulted through three views. A view is a structure of
answers, taken at one moment, so a statement about the ledger can quantify over every wallet and
every chain, whatever stands behind them.

## Main definitions

* `Ownership`, ordered from foreign to spendable, and `Ownership.weakest`
* `WalletView`: which scripts and shielded keys are the wallet's
* `ChainView`: where a transaction stands in the chain
* `RelayView`: how far a transaction has spread
-/

namespace ShieldedLedger

/-! ### Ownership -/

/-- How much of an input or output the wallet controls. -/
inductive Ownership where
  /-- The wallet has no part in it. -/
  | foreign
  /-- The wallet watches it without a key to spend it. -/
  | watchOnly
  /-- The wallet can spend it. -/
  | spendable
  deriving DecidableEq, Repr

namespace Ownership

/-- Whether the wallet has any part in it. -/
def isMine (o : Ownership) : Bool := o ≠ foreign

/-- Whether the wallet merely watches it. -/
def isWatchOnly (o : Ownership) : Bool := o = watchOnly

/-- The weaker of two ownerships. -/
def meet : Ownership → Ownership → Ownership
  | foreign, _ => foreign
  | _, foreign => foreign
  | watchOnly, _ => watchOnly
  | _, watchOnly => watchOnly
  | spendable, spendable => spendable

/-- The weakest of some ownerships, which is what the wallet controls of all of them. -/
def weakest (os : List Ownership) : Ownership := os.foldr meet spendable

theorem isMine_meet (a b : Ownership) : (meet a b).isMine = (a.isMine && b.isMine) := by
  cases a <;> cases b <;> rfl

theorem isMine_weakest (os : List Ownership) : (weakest os).isMine = os.all isMine := by
  induction os with
  | nil => rfl
  | cons o os ih => simpa [weakest, isMine_meet] using congrArg (o.isMine && ·) ih

end Ownership

/-! ### The wallet -/

/-- What the wallet answers about its scripts and shielded keys. -/
structure WalletView where
  /-- How much of an input the wallet controls. -/
  inputOwnership : TxInput → Ownership
  /-- How much of an output the wallet controls. -/
  outputOwnership : TxOutput → Ownership
  /-- Whether an owned output pays to an address that was never handed out. -/
  isChange : TxOutput → Bool
  /-- The output that an owned input spends. -/
  previousOutput : OutPoint → Option TxOutput
  /-- The shielded addresses whose notes the wallet can spend. -/
  spendingAddresses : List String
  /-- The notes received at an address whose depth lies between two bounds. -/
  receivedNotes : String → (minDepth maxDepth : Int) → List Note

/-! ### The chain -/

/-- How many blocks are left before a block reward of some depth can be spent. -/
def countdown (maturity depth : Int) : Int := max (maturity + 1 - depth) 0

theorem countdown_nonneg (maturity depth : Int) : 0 ≤ countdown maturity depth :=
  Int.le_max_right _ _

theorem countdown_eq_zero_iff {maturity depth : Int} :
    countdown maturity depth = 0 ↔ maturity < depth := by
  rw [countdown]
  omega

/-- What the chain answers about a transaction. -/
structure ChainView where
  /-- The height of the tip. -/
  height : Int
  /-- Whether the transaction is final at the tip, given the least lock time that is a time. -/
  isFinal : Transaction → UInt32 → Bool
  /-- The height of the block that contains the transaction. -/
  blockHeight? : Transaction → Option Int
  /-- How many blocks stand on the transaction, its own included; zero if it is not mined and
  negative if a conflicting one was mined instead. -/
  depth : Transaction → Int
  /-- Whether the transaction is in the best chain. -/
  inBestChain : Transaction → Bool
  /-- How many blocks are left before a block reward can be spent, given the maturity. -/
  blocksToMaturity : Transaction → Int → Int := fun tx maturity =>
    if tx.isCoinbase then countdown maturity (depth tx) else 0
  /-- Whether the transaction's outputs may be counted as the wallet's. -/
  isTrusted : Transaction → UInt32 → Bool := fun tx threshold =>
    isFinal tx threshold && decide (1 ≤ depth tx)

/-- Whether a transaction is shown at all. A block reward is hidden until its block is in the best
chain. -/
def ChainView.shows (chain : ChainView) (tx : Transaction) : Bool :=
  !tx.isCoinbase || chain.inBestChain tx

/-! ### The network -/

/-- What the network layer answers about a transaction. -/
structure RelayView where
  /-- How many peers asked for it; negative when that is not known. -/
  requestCount : Transaction → Int
  /-- The seconds since the wallet received it. -/
  secondsSinceReceipt : Transaction → Int

end ShieldedLedger
