import ShieldedLedger.Params
import ShieldedLedger.Text.Basic
import ShieldedLedger.Transaction

/-!
# Errors

A transaction of an unknown kind is no error. An error means that the wallet, the chain or an input
contradicts itself, so that no amount computed from it can be trusted.

## Main definitions

* `LedgerError` and its `message`
* `LedgerError.isInconsistency`: whether the parties consulted contradict each other
-/

namespace ShieldedLedger

/-- Why a ledger computation fails. -/
inductive LedgerError where
  /-- The wallet owns an input but does not know the output it spends. -/
  | missingPrevout (spent : OutPoint)
  /-- The chain counts blocks on top of a transaction but names no block that contains it. -/
  | missingBlockIndex (tx : TxHash)
  /-- An amount is outside the money range, or takes a total outside it. -/
  | amountOutOfRange (tx : TxHash) (value : Int)
  /-- Parameters cannot be used. -/
  | invalidParams (fault : ParamsFault)
  /-- A text is no transaction hash. -/
  | invalidHash (fault : HashFault)
  deriving DecidableEq, Repr

/-- An output written as its transaction and its place. -/
def OutPoint.text (p : OutPoint) : String := p.txid.toHex ++ ":" ++ Decimal.ofNat p.index.toNat

/-- Why a text is no transaction hash, in words. -/
def HashFault.message : HashFault → String
  | wrongLength length => "expected 64 hex chars, got " ++ Decimal.ofNat length
  | badDigit fault =>
    "Invalid character " ++ Latin.quoted fault.byte ++ " at position "
      ++ Decimal.ofNat fault.position

/-- The environment variable that sets a field of the profile. -/
def ParamsField.envName : ParamsField → String
  | lockTimeThreshold => "ZWALLET_LOCK_TIME_THRESHOLD"
  | coinbaseMaturity => "ZWALLET_COINBASE_MATURITY"
  | recommendedConfirmations => "ZWALLET_RECOMMENDED_CONFIRMATIONS"
  | staleWindow => "ZWALLET_STALE_WINDOW_SECS"
  | operationFee => "ZWALLET_PER_OPERATION_FEE"

/-- Why parameters are refused, in words. -/
def ParamsFault.message : ParamsFault → String
  | unknownNetwork name =>
    "invalid network '" ++ name ++ "', expected 'main', 'test' or 'regtest'"
  | notPositive field value => field.name ++ " must be positive, got " ++ Decimal.ofInt value
  | negative field value => field.name ++ " must not be negative, got " ++ Decimal.ofInt value
  | unreadable field text => field.envName ++ ": cannot parse '" ++ text ++ "'"

namespace LedgerError

/-- The error in words. -/
def message : LedgerError → String
  | missingPrevout spent =>
    "owned input spends " ++ spent.text ++ " but the wallet has no record of that output"
  | missingBlockIndex tx =>
    "transaction " ++ tx.toHex ++ " is reported in the best chain but has no block index entry"
  | amountOutOfRange tx value =>
    "transaction " ++ tx.toHex ++ " carries amount " ++ Decimal.ofInt value
      ++ " outside the money range"
  | invalidParams fault => "invalid consensus parameters: " ++ fault.message
  | invalidHash fault => "invalid transaction hash: " ++ fault.message

/-- Whether the wallet or the chain contradicts itself, as opposed to a bad input. -/
def isInconsistency : LedgerError → Bool
  | missingPrevout _ | missingBlockIndex _ => true
  | _ => false

end LedgerError

end ShieldedLedger
