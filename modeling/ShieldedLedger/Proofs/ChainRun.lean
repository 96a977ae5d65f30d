import Mathlib.Data.List.Induction
import ShieldedLedger.Proofs.MapLaws
import ShieldedLedger.Proofs.Stage
import ShieldedLedger.Snapshot

/-!
# Runs of a chain snapshot

A snapshot of the chain is built step by step, and a step changes some fields of one entry and
leaves the others as they were. What a chain says of a transaction could therefore depend on all
that ever happened to it. It does not: this file shows that the last event that mined, orphaned,
displaced or forgot the transaction decides, together with the tip, and that only a countdown to
maturity outlives such events.

The invariant is the form of an entry. An entry is written down from a standing and a countdown,
each event replaces the one or the other, and an unknown transaction has a standing as well, so that
no step needs a case for a first entry.

## Main definitions

* `ChainEvent`, `ChainSnapshot.run` — what can happen to a snapshot, and what comes of it
* `Standing`, `Standing.answers` — what the last event says of a transaction, and what the chain
  answers then
* `lastOf`, `lastStanding`, `lastCountdown` — the last event that says anything

## Main results

* `ChainEvent.recorded_apply` — what one event does to an entry
* `ChainSnapshot.recorded_run` — the entry of a transaction after a run
* `ChainSnapshot.run_answers` — the answers after a run, and when they contradict each other
-/

namespace ShieldedLedger

/-! ### Events -/

/-- What can happen to a snapshot of the chain. -/
inductive ChainEvent where
  /-- A transaction is mined in a block of the best chain. -/
  | mine (txid : TxHash) (blockHeight : Int)
  /-- A transaction is mined in a block that is not in the best chain. -/
  | orphan (txid : TxHash) (blockHeight : Int)
  /-- A conflicting transaction is mined instead and is so many blocks deep. -/
  | conflict (txid : TxHash) (depth : Int)
  /-- The countdown of a transaction is set or removed. -/
  | setMaturity (txid : TxHash) (blocks? : Option Int)
  /-- A transaction is forgotten. -/
  | forget (txid : TxHash)
  /-- The tip moves to a height. -/
  | setHeight (height : Int)
  /-- The median time of the last blocks changes. -/
  | setMedianTime (time : UInt32)
  deriving DecidableEq, Repr

/-- What the last event about a transaction says of it. -/
inductive Standing where
  /-- Nothing, or it was forgotten. -/
  | unknown
  /-- It was mined in the best chain. -/
  | mined (blockHeight : Int)
  /-- It was mined outside the best chain. -/
  | orphaned (blockHeight : Int)
  /-- Something else was mined instead. -/
  | conflicted (depth : Int)
  deriving DecidableEq, Repr

namespace Standing

/-- The entry in which a standing is written down beside a countdown. -/
def entry (countdown? : Option Int) : Standing → ChainEntry
  | unknown => ⟨none, false, none, countdown?⟩
  | mined blockHeight => ⟨some blockHeight, true, none, countdown?⟩
  | orphaned blockHeight => ⟨some blockHeight, false, none, countdown?⟩
  | conflicted depth => ⟨none, false, some depth, countdown?⟩

/-- What a chain answers about a transaction: the height of its block, its depth, and whether it is
in the best chain. -/
def answers (tip : Int) : Standing → Option Int × Int × Bool
  | unknown => (none, 0, false)
  | mined blockHeight => (some blockHeight, tip - blockHeight + 1, true)
  | orphaned blockHeight => (some blockHeight, 0, false)
  | conflicted depth => (none, -depth, false)

/-- No standing is written down with both a block and a conflict. -/
theorem not_isSome_entry (s : Standing) (countdown? : Option Int) :
    ¬((s.entry countdown?).blockHeight?.isSome ∧ (s.entry countdown?).conflictDepth?.isSome) := by
  cases s <;> simp [entry]

end Standing

namespace ChainEvent

/-- The snapshot after an event. -/
def apply (c : ChainSnapshot) : ChainEvent → ChainSnapshot
  | mine txid blockHeight => c.mine txid blockHeight
  | orphan txid blockHeight => c.orphan txid blockHeight
  | conflict txid depth => c.conflict txid depth
  | setMaturity txid blocks? => c.setMaturity txid blocks?
  | forget txid => c.forget txid
  | setHeight height => { c with height }
  | setMedianTime medianTimePast => { c with medianTimePast }

/-- What an event says of where a transaction stands. -/
def standing? (txid : TxHash) : ChainEvent → Option Standing
  | mine t blockHeight => if t = txid then some (.mined blockHeight) else none
  | orphan t blockHeight => if t = txid then some (.orphaned blockHeight) else none
  | conflict t depth => if t = txid then some (.conflicted depth) else none
  | forget t => if t = txid then some .unknown else none
  | setMaturity _ _ | setHeight _ | setMedianTime _ => none

/-- What an event says of the countdown of a transaction. -/
def countdown? (txid : TxHash) : ChainEvent → Option (Option Int)
  | setMaturity t blocks? => if t = txid then some blocks? else none
  | forget t => if t = txid then some none else none
  | mine _ _ | orphan _ _ | conflict _ _ | setHeight _ | setMedianTime _ => none

/-- What an event says of the tip. -/
def height? : ChainEvent → Option Int
  | setHeight height => some height
  | _ => none

end ChainEvent

/-! ### The last event that says anything -/

/-- What the last event says that says anything, or what was so from the start. -/
def lastOf {α : Type} (said? : ChainEvent → Option α) (start : α) (events : List ChainEvent) : α :=
  (events.reverse.findSome? said?).getD start

/-- Where a transaction stands after some events. -/
def lastStanding (txid : TxHash) (events : List ChainEvent) : Standing :=
  lastOf (ChainEvent.standing? txid) .unknown events

/-- The countdown of a transaction after some events. -/
def lastCountdown (txid : TxHash) (events : List ChainEvent) : Option Int :=
  lastOf (ChainEvent.countdown? txid) none events

theorem lastOf_append_singleton {α : Type} (said? : ChainEvent → Option α) (start : α)
    (events : List ChainEvent) (e : ChainEvent) :
    lastOf said? start (events ++ [e]) = (said? e).getD (lastOf said? start events) := by
  rw [lastOf, List.reverse_append, List.reverse_singleton, List.singleton_append,
    List.findSome?_cons]
  cases said? e <;> rfl

/-! ### What is written down -/

namespace ChainSnapshot

variable {c : ChainSnapshot} {tx : Transaction}

/-- What is written down of a transaction; nothing is known of one without an entry. -/
def recorded (c : ChainSnapshot) (txid : TxHash) : ChainEntry := (c.entry? txid).getD .unknown

theorem recorded_modify_self (c : ChainSnapshot) (txid : TxHash) (f : ChainEntry → ChainEntry) :
    (c.modify txid f).recorded txid = f (c.recorded txid) :=
  congrArg (Option.getD · ChainEntry.unknown) (SortedMap.get?_insert_self _ _ _)

theorem recorded_modify_of_ne {txid t : TxHash} (h : t ≠ txid) (f : ChainEntry → ChainEntry) :
    (c.modify t f).recorded txid = c.recorded txid :=
  congrArg (Option.getD · ChainEntry.unknown) (SortedMap.get?_insert_of_ne _ h.symm _)

theorem recorded_forget_self (c : ChainSnapshot) (txid : TxHash) :
    (c.forget txid).recorded txid = .unknown :=
  congrArg (Option.getD · ChainEntry.unknown) (SortedMap.get?_erase_self _ _)

theorem recorded_forget_of_ne {txid t : TxHash} (h : t ≠ txid) :
    (c.forget t).recorded txid = c.recorded txid :=
  congrArg (Option.getD · ChainEntry.unknown) (SortedMap.get?_erase_of_ne _ h.symm)

end ChainSnapshot

/-- **What one event does to an entry**: it replaces the standing or the countdown, if it says
anything of the transaction, and leaves the other as it is. -/
theorem ChainEvent.recorded_apply {c : ChainSnapshot} {txid : TxHash} {s : Standing}
    {blocks? : Option Int} (h : c.recorded txid = s.entry blocks?) (e : ChainEvent) :
    (e.apply c).recorded txid =
      ((e.standing? txid).getD s).entry ((e.countdown? txid).getD blocks?) := by
  cases e with
  | mine t blockHeight =>
    by_cases ht : t = txid
    · subst ht
      rw [apply, ChainSnapshot.mine, ChainSnapshot.recorded_modify_self, h, standing?, if_pos rfl]
      cases s <;> rfl
    · rw [apply, ChainSnapshot.mine, ChainSnapshot.recorded_modify_of_ne ht, h, standing?,
        if_neg ht]
      rfl
  | orphan t blockHeight =>
    by_cases ht : t = txid
    · subst ht
      rw [apply, ChainSnapshot.orphan, ChainSnapshot.mine, ChainSnapshot.recorded_modify_self,
        ChainSnapshot.recorded_modify_self, h, standing?, if_pos rfl]
      cases s <;> rfl
    · rw [apply, ChainSnapshot.orphan, ChainSnapshot.mine, ChainSnapshot.recorded_modify_of_ne ht,
        ChainSnapshot.recorded_modify_of_ne ht, h, standing?, if_neg ht]
      rfl
  | conflict t depth =>
    by_cases ht : t = txid
    · subst ht
      rw [apply, ChainSnapshot.conflict, ChainSnapshot.recorded_modify_self, h, standing?,
        if_pos rfl]
      cases s <;> rfl
    · rw [apply, ChainSnapshot.conflict, ChainSnapshot.recorded_modify_of_ne ht, h, standing?,
        if_neg ht]
      rfl
  | setMaturity t blocks?' =>
    by_cases ht : t = txid
    · subst ht
      rw [apply, ChainSnapshot.setMaturity, ChainSnapshot.recorded_modify_self, h, countdown?,
        if_pos rfl]
      cases s <;> rfl
    · rw [apply, ChainSnapshot.setMaturity, ChainSnapshot.recorded_modify_of_ne ht, h, countdown?,
        if_neg ht]
      rfl
  | forget t =>
    by_cases ht : t = txid
    · subst ht
      rw [apply, ChainSnapshot.recorded_forget_self, standing?, countdown?, if_pos rfl, if_pos rfl]
      rfl
    · rw [apply, ChainSnapshot.recorded_forget_of_ne ht, h, standing?, countdown?, if_neg ht,
        if_neg ht]
      rfl
  | setHeight height => exact h
  | setMedianTime time => exact h

namespace ChainSnapshot

variable {c : ChainSnapshot} {tx : Transaction} {s : Standing} {blocks? : Option Int}

/-- What comes of a snapshot by some events. -/
def run (c : ChainSnapshot) (events : List ChainEvent) : ChainSnapshot :=
  events.foldl ChainEvent.apply c

theorem run_append_singleton (c : ChainSnapshot) (events : List ChainEvent) (e : ChainEvent) :
    c.run (events ++ [e]) = e.apply (c.run events) :=
  List.foldl_concat ..

/-- **The entry of a transaction after a run** from a snapshot without entries. -/
theorem recorded_run (height : Int) (events : List ChainEvent) (txid : TxHash) :
    ((atHeight height).run events).recorded txid =
      (lastStanding txid events).entry (lastCountdown txid events) := by
  induction events using List.reverseRecOn with
  | nil => rfl
  | append_singleton events e ih =>
    rw [run_append_singleton, e.recorded_apply ih, lastStanding, lastStanding, lastCountdown,
      lastCountdown, lastOf_append_singleton, lastOf_append_singleton]

theorem height_apply (c : ChainSnapshot) (e : ChainEvent) :
    (e.apply c).height = e.height?.getD c.height := by
  cases e <;> rfl

theorem height_run (height : Int) (events : List ChainEvent) :
    ((atHeight height).run events).height = lastOf ChainEvent.height? height events := by
  induction events using List.reverseRecOn with
  | nil => rfl
  | append_singleton events e ih =>
    rw [run_append_singleton, height_apply, ih, lastOf_append_singleton]

/-! ### What the chain answers -/

/-- The answers are read off what is written down, also where nothing is. -/
theorem answers_view (h : c.recorded tx.hash = s.entry blocks?) :
    (c.view.blockHeight? tx, c.view.depth tx, c.view.inBestChain tx) = s.answers c.height := by
  have hread : (c.view.blockHeight? tx, c.view.depth tx, c.view.inBestChain tx) =
      ((c.recorded tx.hash).blockHeight?, depthOf c.height (c.recorded tx.hash),
        isBest (c.recorded tx.hash)) := by
    rw [recorded]
    simp only [view, depth]
    cases c.entry? tx.hash <;> rfl
  rw [hread, h]
  cases s <;> rfl

theorem countdown_of_recorded (h : c.recorded tx.hash = s.entry blocks?) :
    (c.entry? tx.hash).bind (·.blocksToMaturity?) = blocks? := by
  have hread : (c.entry? tx.hash).bind (·.blocksToMaturity?) =
      (c.recorded tx.hash).blocksToMaturity? := by
    rw [recorded]
    cases c.entry? tx.hash <;> rfl
  rw [hread, h]
  cases s <;> rfl

/-- The chain contradicts itself only about a conflict that lies above the tip. -/
theorem contradicts_iff_standing (h : c.recorded tx.hash = s.entry blocks?) :
    c.view.contradicts tx ↔ ∃ depth, s = .conflicted depth ∧ depth < 0 := by
  obtain ⟨hblock, hdepth, hbest⟩ := by simpa only [Prod.ext_iff] using answers_view h
  rw [ChainView.contradicts, hblock, hdepth, hbest]
  cases s <;> simp [Standing.answers]

/-- **What a chain answers after any run.** No entry tells of a block and a conflict at once. The
block, the depth and the membership in the best chain of a transaction follow from the tip and from
the last event that mined, orphaned, displaced or forgot it. Its countdown is the last one that was
set since it was last forgotten. Its records have no status just if that last event was a conflict
of negative depth. -/
theorem run_answers (height : Int) (events : List ChainEvent) :
    (∀ e ∈ ((atHeight height).run events).transactions.entries,
      ¬(e.2.blockHeight?.isSome ∧ e.2.conflictDepth?.isSome)) ∧
    ((atHeight height).run events).height = lastOf ChainEvent.height? height events ∧
    ∀ tx : Transaction,
      (((atHeight height).run events).view.blockHeight? tx,
          ((atHeight height).run events).view.depth tx,
          ((atHeight height).run events).view.inBestChain tx) =
        (lastStanding tx.hash events).answers ((atHeight height).run events).height ∧
      (ChainSnapshot.entry? ((atHeight height).run events) tx.hash).bind (·.blocksToMaturity?) =
        lastCountdown tx.hash events ∧
      ∀ relay p r e, Status.derive ((atHeight height).run events).view relay p tx r = .error e ↔
        (∃ depth, lastStanding tx.hash events = .conflicted depth ∧ depth < 0) ∧
          e = .missingBlockIndex tx.hash := by
  refine ⟨fun e he => ?_, height_run height events, fun tx => ?_⟩
  · have hrecorded : ((atHeight height).run events).recorded e.1 = e.2 :=
      congrArg (Option.getD · ChainEntry.unknown) (SortedMap.get?_of_mem he)
    rw [← hrecorded, recorded_run]
    exact Standing.not_isSome_entry _ _
  · have hentry := recorded_run height events tx.hash
    refine ⟨answers_view hentry, countdown_of_recorded hentry, fun relay p r e => ?_⟩
    rw [Status.derive_eq_error_iff, contradicts_iff_standing hentry]

end ChainSnapshot

end ShieldedLedger
