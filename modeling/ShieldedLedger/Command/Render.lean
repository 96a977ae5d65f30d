import ShieldedLedger.Bundle
import ShieldedLedger.Json.Printer
import ShieldedLedger.Saved.Report
import ShieldedLedger.Text.Basic

/-!
# What the commands print

A report is printed as a table with one line for each record, or as JSON; parameters are printed as
text, or as JSON.

## Main definitions

* `Report.table`, `Report.json`
* `ParamsSource`, `Params.summary`, `Params.summaryJson`
-/

namespace ShieldedLedger

/-! ### The table -/

/-- One line of the table. -/
def tableLine (tx index kind state address debit credit fee : String) : String :=
  Column.left 16 tx ++ " " ++ Column.right 3 index ++ "  " ++ Column.left 18 kind ++ " "
    ++ Column.left 30 state ++ " " ++ Column.left 34 address ++ " " ++ Column.right 14 debit ++ " "
    ++ Column.right 14 credit ++ " " ++ Column.right 8 fee ++ "\n"

/-- The state with what is left to wait for, or else with the depth. -/
def Status.cell (s : Status) : String :=
  if 0 < s.maturesIn then s.state.label ++ " (" ++ Decimal.ofInt s.maturesIn ++ " blocks)"
  else if s.depth ≠ 0 then s.state.label ++ " (" ++ Decimal.ofInt s.depth ++ ")"
  else s.state.label

/-- The counterpart, marked if outputs that are merely watched take part. -/
def Record.addressCell (r : Record) : String :=
  if r.watchOnly then r.address ++ " (watch)" else r.address

/-- The line of a record. -/
def ReportEntry.line (e : ReportEntry) : String :=
  tableLine (String.ofList (e.record.hash.toHex.toList.take 16)) (Decimal.ofNat e.record.index)
    e.record.kind.label e.status.cell e.record.addressCell (Decimal.ofInt e.record.debit)
    (Decimal.ofInt e.record.credit) (Decimal.ofInt e.record.fee)

/-- The report as a table. -/
def Report.table (r : Report) : String :=
  tableLine "tx" "idx" "kind" "status" "address" "debit" "credit" "fee"
    ++ String.join (r.entries.map ReportEntry.line)
    ++ Decimal.ofNat r.entries.length ++ " records\n"

/-- The report as JSON. -/
def Report.json (r : Report) : String := r.toJson.pretty ++ "\n"

/-! ### Parameters -/

/-- Where the effective parameters come from. -/
inductive ParamsSource where
  | flag
  | bundle
  | environment
  deriving DecidableEq, Repr

/-- The word for a source. -/
def ParamsSource.name : ParamsSource → String
  | flag => "flag"
  | bundle => "bundle"
  | environment => "environment"

/-- The parameters as text. -/
def Params.summary (p : Params) (source : ParamsSource) : String :=
  "network: " ++ p.network.name ++ " (from " ++ source.name ++ ")\n"
    ++ "lock_time_threshold: " ++ Decimal.ofNat p.lockTimeThreshold.toNat ++ "\n"
    ++ "coinbase_maturity: " ++ Decimal.ofInt p.coinbaseMaturity ++ " blocks\n"
    ++ "recommended_confirmations: " ++ Decimal.ofInt p.recommendedConfirmations ++ "\n"
    ++ "stale_window: " ++ Decimal.ofInt p.staleWindow ++ " s\n"
    ++ "per_operation_fee: " ++ Decimal.ofInt p.operationFee ++ "\n"

/-- The parameters as JSON. -/
def Params.summaryJson (p : Params) (source : ParamsSource) : String :=
  (Json.object (("source", .string source.name) :: p.toMembers)).pretty ++ "\n"

end ShieldedLedger
