import ShieldedLedger.Main
import ShieldedLedger.Proofs.Attribution
import ShieldedLedger.Proofs.ChainRun
import ShieldedLedger.Proofs.Conservation
import ShieldedLedger.Proofs.Debit
import ShieldedLedger.Proofs.ExactAmounts
import ShieldedLedger.Proofs.Growth
import ShieldedLedger.Proofs.Locality
import ShieldedLedger.Proofs.Maturity
import ShieldedLedger.Proofs.Notices
import ShieldedLedger.Proofs.Reordering
import ShieldedLedger.Proofs.SavedText
import ShieldedLedger.Sample.Scenario
import ShieldedLedger.Proofs.LockTime
import ShieldedLedger.Proofs.Rearrangement
import ShieldedLedger.Proofs.Receipt
import ShieldedLedger.Proofs.Watching
import ShieldedLedger.Proofs.AssumedFee
import ShieldedLedger.Proofs.HashText
import ShieldedLedger.Proofs.KeyText
import ShieldedLedger.Proofs.Staleness
import ShieldedLedger.Proofs.Overrides
import ShieldedLedger.Proofs.ReportLog
import ShieldedLedger.Proofs.ResolvedNotes
import ShieldedLedger.Proofs.SparseBundle
import ShieldedLedger.Proofs.FirstNote
