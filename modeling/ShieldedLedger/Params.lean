import ShieldedLedger.Amount

/-!
# Network parameters

Every threshold that differs between network profiles is held in one value, which is passed to each
computation that needs it.

## Main definitions

* `Network`, `Network.parse`
* `Params`, `Params.forNetwork`: the built-in profile of a network
* `Params.fault?`: the first reason why a profile cannot be used
* `ParamsFault`: why parameters are refused
-/

namespace ShieldedLedger

/-- The network that a profile is for. -/
inductive Network where
  | main
  | test
  | regtest
  deriving DecidableEq, Repr

/-- A field of a profile that can be set from outside. -/
inductive ParamsField where
  | lockTimeThreshold
  | coinbaseMaturity
  | recommendedConfirmations
  | staleWindow
  | operationFee
  deriving DecidableEq, Repr

/-- Why parameters are refused. -/
inductive ParamsFault where
  /-- No network has this name. -/
  | unknownNetwork (name : String)
  /-- A field that must be positive is not. -/
  | notPositive (field : ParamsField) (value : Int)
  /-- A field that must not be negative is. -/
  | negative (field : ParamsField) (value : Int)
  /-- The text given for a field is no number in its range. -/
  | unreadable (field : ParamsField) (text : String)
  deriving DecidableEq, Repr

namespace Network

/-- The name of a network. -/
def name : Network → String
  | main => "main"
  | test => "test"
  | regtest => "regtest"

/-- Reads a network name, in letters of either case; the longer names of the two public networks
are understood as well. -/
def parse (text : String) : Except ParamsFault Network :=
  let lowered := text.map Char.toLower
  if lowered = "main" ∨ lowered = "mainnet" then .ok main
  else if lowered = "test" ∨ lowered = "testnet" then .ok test
  else if lowered = "regtest" then .ok regtest
  else .error (.unknownNetwork lowered)

end Network

/-- The name under which a field is saved. -/
def ParamsField.name : ParamsField → String
  | lockTimeThreshold => "lock_time_threshold"
  | coinbaseMaturity => "coinbase_maturity"
  | recommendedConfirmations => "recommended_confirmations"
  | staleWindow => "stale_window_secs"
  | operationFee => "per_operation_fee"

/-- Thresholds and fee policy of one network profile. -/
structure Params where
  /-- The network. -/
  network : Network
  /-- Lock times below this are heights, the others are times. -/
  lockTimeThreshold : UInt32
  /-- How many blocks a block reward must wait before it can be spent. -/
  coinbaseMaturity : Int
  /-- The depth at which a transaction counts as confirmed. -/
  recommendedConfirmations : Int
  /-- After so many seconds without a request from a peer a transaction is stale. -/
  staleWindow : Int
  /-- The fee assumed for a shielded operation whose fee cannot be observed. -/
  operationFee : Int
  deriving DecidableEq, Repr

namespace Params

/-- The built-in profile of a network. Only the depth that counts as confirmed depends on it. -/
def forNetwork (network : Network) : Params where
  network
  lockTimeThreshold := 500000000
  coinbaseMaturity := 100
  recommendedConfirmations := if network = .regtest then 1 else 6
  staleWindow := 120
  operationFee := 10000

/-- The profile of the main network. -/
def standard : Params := forNetwork .main

/-- The first reason why the profile cannot be used. -/
def fault? (p : Params) : Option ParamsFault :=
  if p.coinbaseMaturity ≤ 0 then some (.notPositive .coinbaseMaturity p.coinbaseMaturity)
  else if p.recommendedConfirmations ≤ 0 then
    some (.notPositive .recommendedConfirmations p.recommendedConfirmations)
  else if p.staleWindow < 0 then some (.negative .staleWindow p.staleWindow)
  else if p.operationFee < 0 then some (.negative .operationFee p.operationFee)
  else none

/-- A profile that can be used. -/
def Valid (p : Params) : Prop :=
  0 < p.coinbaseMaturity ∧ 0 < p.recommendedConfirmations ∧ 0 ≤ p.staleWindow ∧ 0 ≤ p.operationFee

instance (p : Params) : Decidable p.Valid :=
  inferInstanceAs (Decidable (0 < p.coinbaseMaturity ∧ 0 < p.recommendedConfirmations ∧
    0 ≤ p.staleWindow ∧ 0 ≤ p.operationFee))

theorem fault?_eq_none_iff {p : Params} : p.fault? = none ↔ p.Valid := by
  unfold fault? Valid
  repeat' split
  all_goals simp only [reduceCtorEq, false_iff, true_iff]
  all_goals omega

/-- Whether a lock time is read as a block height. -/
def isHeightLock (p : Params) (lockTime : UInt32) : Bool := lockTime < p.lockTimeThreshold

end Params

end ShieldedLedger
