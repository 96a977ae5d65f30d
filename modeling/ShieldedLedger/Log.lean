import ShieldedLedger.Error
import ShieldedLedger.Shape
import ShieldedLedger.State

/-!
# Computations that keep a log

What is worth telling about a computation is kept beside its result, as values. A computation that
fails keeps what it told before.

## Main definitions

* `LogEvent`: what can be told, with its level, source and fields
* `Logged`: a result or an error, with the events that came before it

## Main results

* `Logged.result_bind`, `Logged.log_bind`: the result of a computation does not depend on its log
-/

namespace ShieldedLedger

/-- How important an event is. -/
inductive LogLevel where
  | debug
  | info
  | warn
  deriving DecidableEq, Repr

/-- The part of the ledger that tells an event. -/
inductive LogSource where
  /-- The search for the wallet's notes. -/
  | notes
  /-- The decomposition of a transaction. -/
  | classification
  /-- The status of a record. -/
  | status
  /-- The report of a bundle. -/
  | report
  deriving DecidableEq, Repr

/-- Which rules a transaction falls under, as far as the log tells. -/
inductive ResolutionKind where
  | owned
  | counterpart
  | unmatched
  deriving DecidableEq, Repr

/-- The word for a resolution. -/
def ResolutionKind.label : ResolutionKind → String
  | owned => "owned"
  | counterpart => "counterpart"
  | unmatched => "unmatched"

/-- What is told in the course of a computation. -/
inductive LogEvent where
  /-- The search for the wallet's notes ended. -/
  | notesResolved (tx : TxHash) (found : Nat)
  /-- Nothing in the transaction is the wallet's. -/
  | notInvolved (tx : TxHash) (shape : Shape)
  /-- A transaction is about to be decomposed. -/
  | classifying (tx : TxHash) (shape : Shape) (resolution : ResolutionKind)
  /-- More than one of the wallet's notes came from the transaction. -/
  | severalNotes (tx : TxHash) (count : Nat)
  /-- No rule for the pool applies. -/
  | noPoolRule (tx : TxHash) (shape : Shape)
  /-- The payees cannot be told apart. -/
  | netOnly (tx : TxHash) (net : Int)
  /-- The status of a record was derived. -/
  | statusDerived (tx : TxHash) (index : Nat) (state : TxState) (depth tip : Int)
  /-- A report was finished. -/
  | reportBuilt (transactions records hidden : Nat)
  deriving DecidableEq, Repr

namespace LogEvent

/-- How important the event is. -/
def level : LogEvent → LogLevel
  | severalNotes .. | netOnly .. => .warn
  | reportBuilt .. => .info
  | _ => .debug

/-- Who tells the event. -/
def source : LogEvent → LogSource
  | notesResolved .. => .notes
  | statusDerived .. => .status
  | reportBuilt .. => .report
  | _ => .classification

/-- The event in words. -/
def message : LogEvent → String
  | notesResolved .. => "resolved shielded notes"
  | notInvolved .. => "transaction does not involve the wallet"
  | classifying .. => "classifying transaction"
  | severalNotes .. => "multiple owned shielded notes in one transaction"
  | noPoolRule .. => "no shielded rule applies, using transparent decomposition"
  | netOnly .. => "cannot break out payees, recording net value only"
  | statusDerived .. => "status updated"
  | reportBuilt .. => "ledger report built"

/-- The named data of the event, as text. -/
def fields : LogEvent → List (String × String)
  | notesResolved tx found => [("tx", tx.toHex), ("matches", Decimal.ofNat found)]
  | notInvolved tx shape => [("tx", tx.toHex), ("shape", shape.logName)]
  | classifying tx shape resolution =>
    [("tx", tx.toHex), ("shape", shape.logName), ("resolution", resolution.label)]
  | severalNotes tx count => [("tx", tx.toHex), ("count", Decimal.ofNat count)]
  | noPoolRule tx shape => [("tx", tx.toHex), ("shape", shape.logName)]
  | netOnly tx net => [("tx", tx.toHex), ("net", Decimal.ofInt net)]
  | statusDerived tx index state depth tip =>
    [("tx", tx.toHex), ("index", Decimal.ofNat index), ("state", state.label),
      ("depth", Decimal.ofInt depth), ("tip", Decimal.ofInt tip)]
  | reportBuilt transactions records hidden =>
    [("transactions", Decimal.ofNat transactions), ("records", Decimal.ofNat records),
      ("hidden", Decimal.ofNat hidden)]

end LogEvent

/-! ### The computations -/

/-- A result or an error, with what was told before it. -/
structure Logged (α : Type) where
  /-- The events, in order. -/
  log : List LogEvent
  /-- The outcome. -/
  result : Except LedgerError α

namespace Logged

variable {α β : Type}

@[ext] theorem ext {x y : Logged α} (hl : x.log = y.log) (hr : x.result = y.result) : x = y := by
  cases x; cases y; simp_all

/-- A computation that tells nothing. -/
def ofExcept (r : Except LedgerError α) : Logged α := ⟨[], r⟩

/-- A computation that only tells some events. -/
def tell (events : List LogEvent) : Logged Unit := ⟨events, .ok ()⟩

/-- One computation after the other; after an error nothing more is told. -/
def andThen (x : Logged α) (f : α → Logged β) : Logged β :=
  match x.result with
  | .ok a => ⟨x.log ++ (f a).log, (f a).result⟩
  | .error e => ⟨x.log, .error e⟩

instance : Monad Logged where
  pure a := ⟨[], .ok a⟩
  bind := andThen

@[simp] theorem result_ofExcept (r : Except LedgerError α) : (ofExcept r).result = r := rfl

@[simp] theorem log_ofExcept (r : Except LedgerError α) : (ofExcept r).log = [] := rfl

@[simp] theorem result_tell (events : List LogEvent) : (tell events).result = .ok () := rfl

@[simp] theorem log_tell (events : List LogEvent) : (tell events).log = events := rfl

@[simp] theorem result_pure (a : α) : (pure a : Logged α).result = .ok a := rfl

@[simp] theorem log_pure (a : α) : (pure a : Logged α).log = [] := rfl

/-- The outcome of two computations is that of their outcomes. -/
@[simp] theorem result_bind (x : Logged α) (f : α → Logged β) :
    (x >>= f).result = x.result >>= fun a => (f a).result := by
  change (andThen x f).result = _
  unfold andThen
  cases x.result <;> rfl

/-- The second computation tells its events only if the first succeeds. -/
theorem log_bind (x : Logged α) (f : α → Logged β) :
    (x >>= f).log = x.log ++ match x.result with
      | .ok a => (f a).log
      | .error _ => [] := by
  change (andThen x f).log = _
  unfold andThen
  cases x.result <;> simp

instance : LawfulMonad Logged := LawfulMonad.mk' Logged
  (by
    intro α x
    change andThen x _ = _
    rcases x with ⟨log, _ | a⟩ <;> simp [andThen])
  (by
    intro α β a f
    change andThen ⟨[], .ok a⟩ f = f a
    simp [andThen])
  (by
    intro α β γ x f g
    change andThen (andThen x f) g = andThen x fun a => andThen (f a) g
    rcases x with ⟨log, _ | a⟩
    · simp [andThen]
    · rcases hf : f a with ⟨log', _ | b⟩ <;> simp [andThen, hf])

end Logged

end ShieldedLedger
