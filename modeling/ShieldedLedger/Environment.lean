import ShieldedLedger.Error
import ShieldedLedger.Text.Basic

/-!
# Parameters from the environment

Each numeric field of a profile has an environment variable that overrides it. A variable that is
set must hold a number in the range of its field, possibly between blanks, and the profile that
results must be usable.

## Main definitions

* `Environment`: the variables that are set
* `Params.withOverrides`: a profile with the overrides of an environment
* `Params.ofEnvironment`: the profile that an environment chooses
-/

namespace ShieldedLedger

/-- The value of each environment variable that is set. -/
abbrev Environment := String → Option String

/-- The least and the greatest number that a field can hold. -/
def ParamsField.range : ParamsField → Int × Int
  | lockTimeThreshold => (0, 4294967295)
  | coinbaseMaturity => (-2147483648, 2147483647)
  | recommendedConfirmations => (-2147483648, 2147483647)
  | staleWindow => (-9223372036854775808, 9223372036854775807)
  | operationFee => (-9223372036854775808, 9223372036854775807)

/-- The number that an environment sets for a field, if it sets one. -/
def ParamsField.override (env : Environment) (field : ParamsField) :
    Except LedgerError (Option Int) :=
  match env field.envName with
  | none => .ok none
  | some text =>
    match Decimal.readIn field.range.1 field.range.2 (Text.trim text) with
    | some z => .ok (some z)
    | none => .error (.invalidParams (.unreadable field text))

/-- The variable that chooses the network. -/
def networkVariable : String := "ZWALLET_NETWORK"

/-- Reads a network name as a parameter. -/
def Network.ofText (text : String) : Except LedgerError Network :=
  (Network.parse text).mapError .invalidParams

namespace Params

/-- Refuses a profile that cannot be used. -/
def validate (p : Params) : Except LedgerError Unit :=
  match p.fault? with
  | some fault => .error (.invalidParams fault)
  | none => .ok ()

/-- The profile with each field that the environment sets. The first variable that cannot be read
is reported, before any fault of the profile. -/
def withOverrides (env : Environment) (p : Params) : Except LedgerError Params := do
  let threshold ← ParamsField.override env .lockTimeThreshold
  let maturity ← ParamsField.override env .coinbaseMaturity
  let confirmations ← ParamsField.override env .recommendedConfirmations
  let window ← ParamsField.override env .staleWindow
  let fee ← ParamsField.override env .operationFee
  let q : Params := {
    network := p.network
    lockTimeThreshold :=
      (threshold.map fun z => UInt32.ofNat z.toNat).getD p.lockTimeThreshold
    coinbaseMaturity := maturity.getD p.coinbaseMaturity
    recommendedConfirmations := confirmations.getD p.recommendedConfirmations
    staleWindow := window.getD p.staleWindow
    operationFee := fee.getD p.operationFee }
  q.validate
  return q

/-- The profile of the network that the environment names, or of the main network, with the
overrides of the environment. -/
def ofEnvironment (env : Environment) : Except LedgerError Params := do
  let network ←
    match env networkVariable with
    | some text => Network.ofText text
    | none => pure .main
  withOverrides env (forNetwork network)

end Params

end ShieldedLedger
