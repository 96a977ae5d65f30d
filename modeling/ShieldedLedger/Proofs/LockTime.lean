import ShieldedLedger.Proofs.Balance
import ShieldedLedger.Snapshot

/-!
# How long a record stays open

A lock time is a height or a time, depending on the side of a threshold on which it lies. The
question is asked twice: by the chain, which has to say whether a transaction is final, and by the
status, which has to say what is left to wait for. Both answers are about the same tip and use the
threshold of the same parameters, so what the status announces is when the chain gives in.

The two kinds of locks do not end alike. A transaction locked to a height may stand in any block
above it, so it is final as soon as the tip has reached that height; one that is locked to a time
has to wait until the median time is beyond it. A lock time of zero locks nothing, whatever the
threshold.

## Main definitions

* `ChainSnapshot.movedTo` — the same entries under another tip

## Main results

* `stateOf_eq_openUntilBlock_iff`, `stateOf_eq_openUntilDate_iff`, `isFinal_of_not_open` — which
  records are open
* `ChainSnapshot.isFinal_iff_of_height`, `ChainSnapshot.isFinal_iff_of_time` — when a lock ends
* `ChainSnapshot.isFinal_movedTo_iff_openFor` — that is what the status announces
-/

namespace ShieldedLedger

/-! ### Which records are open -/

section Stage

variable {chain : ChainView} {relay : RelayView} {p : Params} {tx : Transaction}
  {kind : RecordKind}

theorem stateOf_eq_openUntilBlock_iff :
    stateOf chain relay p tx kind = .openUntilBlock ↔
      ¬chain.isFinal tx p.lockTimeThreshold ∧ p.isHeightLock tx.lockTime := by
  rw [stateOf_eq_iff]
  constructor
  · intro h
    cases h with
    | openUntilBlock hopen hlock => exact ⟨hopen, hlock⟩
  · rintro ⟨hopen, hlock⟩
    exact .openUntilBlock hopen hlock

theorem stateOf_eq_openUntilDate_iff :
    stateOf chain relay p tx kind = .openUntilDate ↔
      ¬chain.isFinal tx p.lockTimeThreshold ∧ ¬p.isHeightLock tx.lockTime := by
  rw [stateOf_eq_iff]
  constructor
  · intro h
    cases h with
    | openUntilDate hopen hlock => exact ⟨hopen, hlock⟩
  · rintro ⟨hopen, hlock⟩
    exact .openUntilDate hopen hlock

/-- There is no third way to be open. -/
theorem isFinal_of_not_open (hblock : stateOf chain relay p tx kind ≠ .openUntilBlock)
    (hdate : stateOf chain relay p tx kind ≠ .openUntilDate) :
    chain.isFinal tx p.lockTimeThreshold := by
  rw [Ne, stateOf_eq_openUntilBlock_iff] at hblock
  rw [Ne, stateOf_eq_openUntilDate_iff] at hdate
  refine Decidable.byContradiction fun hopen => ?_
  by_cases hlock : p.isHeightLock tx.lockTime
  · exact hblock ⟨hopen, hlock⟩
  · exact hdate ⟨hopen, hlock⟩

/-- Nothing is left to wait for in the other states. -/
theorem openFor_of_not_open {s : TxState} (hblock : s ≠ .openUntilBlock)
    (hdate : s ≠ .openUntilDate) : openFor chain tx s = 0 := by
  cases s with
  | openUntilBlock => exact absurd rfl hblock
  | openUntilDate => exact absurd rfl hdate
  | _ => rfl

end Stage

/-! ### When a lock ends -/

namespace ChainSnapshot

variable {c : ChainSnapshot} {tx : Transaction} {threshold : UInt32}

/-- The same chain under another tip. -/
def movedTo (c : ChainSnapshot) (height : Int) (time : UInt32) : ChainSnapshot :=
  { c with height, medianTimePast := time }

/-- A lock time of zero locks nothing. -/
theorem lockTime_ne_zero_of_not_isFinal (h : ¬c.isFinal tx threshold) : tx.lockTime ≠ 0 := by
  intro hzero
  simp [isFinal, hzero] at h

/-- A lock to a height ends with the block at that height. -/
theorem isFinal_iff_of_height (hne : tx.lockTime ≠ 0) (hlock : tx.lockTime < threshold) :
    c.isFinal tx threshold ↔ (tx.lockTime.toNat : Int) ≤ c.height := by
  rw [← Int.lt_add_one_iff]
  simp [isFinal, hne, hlock]

/-- A lock to a time ends once the median time is beyond it. -/
theorem isFinal_iff_of_time (hne : tx.lockTime ≠ 0) (hlock : ¬tx.lockTime < threshold) :
    c.isFinal tx threshold ↔ (tx.lockTime.toNat : Int) < c.medianTimePast.toNat := by
  simp [isFinal, hne, hlock]

/-! ### What the status announces -/

variable {p : Params} {relay : RelayView} {kind : RecordKind}

/-- A record that is open until a block waits for at least one, and its transaction is final once
so many blocks have been added to the tip. -/
theorem isFinal_movedTo_iff_of_block
    (hstate : stateOf c.view relay p tx kind = .openUntilBlock) :
    1 ≤ openFor c.view tx .openUntilBlock ∧ ∀ (height : Int) (time : UInt32),
      (c.movedTo height time).isFinal tx p.lockTimeThreshold ↔
        c.height + openFor c.view tx .openUntilBlock ≤ height := by
  obtain ⟨hopen, hheight⟩ := stateOf_eq_openUntilBlock_iff.mp hstate
  have hne := lockTime_ne_zero_of_not_isFinal hopen
  have hlock : tx.lockTime < p.lockTimeThreshold := of_decide_eq_true hheight
  have hleft : openFor c.view tx .openUntilBlock = tx.lockTime.toNat - c.height := rfl
  have hnow : ¬(tx.lockTime.toNat : Int) ≤ c.height := fun hle =>
    hopen ((isFinal_iff_of_height hne hlock).mpr hle)
  refine ⟨by omega, fun height time => ?_⟩
  have hlater : (c.movedTo height time).isFinal tx p.lockTimeThreshold ↔
      (tx.lockTime.toNat : Int) ≤ height := isFinal_iff_of_height hne hlock
  rw [hlater]
  omega

/-- The transaction of a record that is open until a date is final once the median time is beyond
it. -/
theorem isFinal_movedTo_iff_of_date (hstate : stateOf c.view relay p tx kind = .openUntilDate)
    (height : Int) (time : UInt32) :
    (c.movedTo height time).isFinal tx p.lockTimeThreshold ↔
      openFor c.view tx .openUntilDate < time.toNat := by
  obtain ⟨hopen, htime⟩ := stateOf_eq_openUntilDate_iff.mp hstate
  have hne := lockTime_ne_zero_of_not_isFinal hopen
  have hlock : ¬tx.lockTime < p.lockTimeThreshold := fun hlt => htime (decide_eq_true hlt)
  exact isFinal_iff_of_time hne hlock

/-- **What is left to wait for is when the transaction becomes final**: so many blocks above the
tip, or beyond that time. Where a record is not open, nothing is left. -/
theorem isFinal_movedTo_iff_openFor {r : Record} {s : Status}
    (h : Status.derive c.view relay p tx r = .ok s) :
    (s.state = .openUntilBlock →
      1 ≤ s.openFor ∧ ∀ (height : Int) (time : UInt32),
        (c.movedTo height time).isFinal tx p.lockTimeThreshold ↔ c.height + s.openFor ≤ height) ∧
    (s.state = .openUntilDate →
      ∀ (height : Int) (time : UInt32),
        (c.movedTo height time).isFinal tx p.lockTimeThreshold ↔ s.openFor < time.toNat) ∧
    (s.state ≠ .openUntilBlock → s.state ≠ .openUntilDate →
      s.openFor = 0 ∧ c.isFinal tx p.lockTimeThreshold) := by
  obtain ⟨_, rfl⟩ := Status.derive_eq_ok_iff.mp h
  have hleft : ∀ state, stateOf c.view relay p tx r.kind = state →
      (Status.of c.view relay p tx r).openFor = openFor c.view tx state := by
    rintro _ rfl
    rfl
  refine ⟨fun hstate => ?_, fun hstate => ?_, fun hblock hdate => ?_⟩
  · rw [hleft _ hstate]
    exact isFinal_movedTo_iff_of_block hstate
  · rw [hleft _ hstate]
    exact isFinal_movedTo_iff_of_date hstate
  · exact ⟨openFor_of_not_open hblock hdate, isFinal_of_not_open hblock hdate⟩

end ChainSnapshot

/-- A transaction that is locked until 60, be it a height or a time. -/
def Transaction.sampleLocked : Transaction :=
  { Transaction.blank ⟨List.replicate 32 31, rfl⟩ 0 with lockTime := 60 }

namespace ChainSnapshot

/-- Under a tip at 50 the lock ends ten blocks later if it is a height. With a threshold of 60 it
is a time instead, and no height helps. -/
theorem isFinal_movedTo_iff_openFor_sampleLocked :
    (∃ s, Status.derive (atHeight 50).view .silent .standard .sampleLocked
        (.fresh .sampleLocked 0 .mixed) = .ok s ∧ s.openFor = 10 ∧
      ¬((atHeight 50).movedTo 59 1000).isFinal .sampleLocked 500000000 ∧
      ((atHeight 50).movedTo 60 0).isFinal .sampleLocked 500000000) ∧
    (∃ s, Status.derive (atHeight 50).view .silent
        { Params.standard with lockTimeThreshold := 60 } .sampleLocked
        (.fresh .sampleLocked 0 .mixed) = .ok s ∧ s.openFor = 60 ∧
      ¬((atHeight 50).movedTo 1000 60).isFinal .sampleLocked 60 ∧
      ((atHeight 50).movedTo 0 61).isFinal .sampleLocked 60) ∧
    ∃ s, Status.derive (atHeight 60).view .silent .standard .sampleLocked
        (.fresh .sampleLocked 0 .mixed) = .ok s ∧ s.openFor = 0 := by
  have hblock : Status.derive (atHeight 50).view .silent .standard .sampleLocked
      (.fresh .sampleLocked 0 .mixed) = .ok _ := rfl
  have hdate : Status.derive (atHeight 50).view .silent
      { Params.standard with lockTimeThreshold := 60 } .sampleLocked
      (.fresh .sampleLocked 0 .mixed) = .ok _ := rfl
  have hfinal : Status.derive (atHeight 60).view .silent .standard .sampleLocked
      (.fresh .sampleLocked 0 .mixed) = .ok _ := rfl
  obtain ⟨_, hheight⟩ := (isFinal_movedTo_iff_openFor hblock).1 rfl
  have htime := (isFinal_movedTo_iff_openFor hdate).2.1 rfl
  have hover := (isFinal_movedTo_iff_openFor hfinal).2.2 nofun nofun
  exact ⟨⟨_, hblock, rfl, fun h => absurd ((hheight 59 1000).mp h) (by decide),
      (hheight 60 0).mpr (by decide)⟩,
    ⟨_, hdate, rfl, fun h => absurd ((htime 1000 60).mp h) (by decide),
      (htime 0 61).mpr (by decide)⟩,
    _, hfinal, hover.1⟩

end ChainSnapshot

end ShieldedLedger
