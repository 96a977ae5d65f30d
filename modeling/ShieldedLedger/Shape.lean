import ShieldedLedger.Transaction

/-!
# The shape of a transaction

Which transparent sides are present, and whether the pool is involved, decides which rules can
decompose a transaction.

## Main definitions

* `Shape`, `Shape.of`
-/

namespace ShieldedLedger

/-- The structural shape of a transaction. -/
inductive Shape where
  /-- No transfers across the border of the pool. -/
  | plain
  /-- Pool transfers with inputs only. -/
  | shieldedIn
  /-- Pool transfers with outputs only. -/
  | shieldedOut
  /-- Pool transfers with inputs and outputs. -/
  | shieldedBoth
  /-- Pool transfers and nothing transparent. -/
  | shieldedNone
  deriving DecidableEq, Repr

namespace Shape

/-- The shape of a transaction. -/
def of (tx : Transaction) : Shape :=
  if !tx.hasShielded then plain
  else match tx.inputs.isEmpty, tx.outputs.isEmpty with
    | false, false => shieldedBoth
    | false, true => shieldedIn
    | true, false => shieldedOut
    | true, true => shieldedNone

/-- The name of a shape in the log. -/
def logName : Shape → String
  | plain => "Plain"
  | shieldedIn => "ShieldedIn"
  | shieldedOut => "ShieldedOut"
  | shieldedBoth => "ShieldedBoth"
  | shieldedNone => "ShieldedNone"

end Shape

end ShieldedLedger
