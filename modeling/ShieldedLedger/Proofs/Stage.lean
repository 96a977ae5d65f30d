import Mathlib.Tactic.SplitIfs
import ShieldedLedger.Status

/-!
# The stage of a record

The state of a record is found by a tree of questions: whether the transaction is final, whether the
record is a block reward, how long a reward must wait, how deep anything else is, and at two places
whether a peer has asked for it. This file says once what leads to each leaf of the tree, and
derives from that what leads to the groups of states that matter together.

From here on no proof opens `stateOf` or `Status.derive`.

## Main definitions

* `Stage` — what leads to each state
* `Status.of` — the status of a record, where there is one

## Main results

* `stateOf_eq_iff` — a record is in the state that its stage says
* `stateOf_maturing_iff`, `stateOf_mined_iff`, `stateOf_eq_confirmed_iff` — what leads to the states
  that matter together
* `Status.derive_eq_ok_iff`, `Status.derive_eq_error_iff` — when there is a status, and which
-/

namespace ShieldedLedger

variable {chain : ChainView} {relay : RelayView} {p : Params} {tx : Transaction}
  {kind : RecordKind}

/-- What leads to each state: for every leaf of the tree, the answers on the way to it. -/
inductive Stage (chain : ChainView) (relay : RelayView) (p : Params) (tx : Transaction)
    (kind : RecordKind) : TxState → Prop where
  /-- It is not final, and its lock is a height. -/
  | openUntilBlock (hopen : ¬chain.isFinal tx p.lockTimeThreshold)
    (hlock : p.isHeightLock tx.lockTime) : Stage chain relay p tx kind .openUntilBlock
  /-- It is not final, and its lock is a time. -/
  | openUntilDate (hopen : ¬chain.isFinal tx p.lockTimeThreshold)
    (hlock : ¬p.isHeightLock tx.lockTime) : Stage chain relay p tx kind .openUntilDate
  /-- A block reward that need not wait any longer. -/
  | matured (hfinal : chain.isFinal tx p.lockTimeThreshold) (hkind : kind = .generated)
    (hwait : chain.blocksToMaturity tx p.coinbaseMaturity = 0) :
    Stage chain relay p tx kind .confirmed
  /-- A block reward that must wait and is not in the best chain. -/
  | notAccepted (hfinal : chain.isFinal tx p.lockTimeThreshold) (hkind : kind = .generated)
    (hwait : chain.blocksToMaturity tx p.coinbaseMaturity ≠ 0) (hbest : ¬chain.inBestChain tx) :
    Stage chain relay p tx kind .notAccepted
  /-- A block reward that must wait, in the best chain, but nobody has asked for it. -/
  | maturesWarning (hfinal : chain.isFinal tx p.lockTimeThreshold) (hkind : kind = .generated)
    (hwait : chain.blocksToMaturity tx p.coinbaseMaturity ≠ 0) (hbest : chain.inBestChain tx)
    (hstale : isStale relay p tx) : Stage chain relay p tx kind .maturesWarning
  /-- A block reward that must wait, in the best chain. -/
  | immature (hfinal : chain.isFinal tx p.lockTimeThreshold) (hkind : kind = .generated)
    (hwait : chain.blocksToMaturity tx p.coinbaseMaturity ≠ 0) (hbest : chain.inBestChain tx)
    (hstale : ¬isStale relay p tx) : Stage chain relay p tx kind .immature
  /-- Something else was mined instead. -/
  | conflicted (hfinal : chain.isFinal tx p.lockTimeThreshold) (hkind : kind ≠ .generated)
    (hdepth : chain.depth tx < 0) : Stage chain relay p tx kind .conflicted
  /-- It is not mined, and nobody has asked for it. -/
  | offline (hfinal : chain.isFinal tx p.lockTimeThreshold) (hkind : kind ≠ .generated)
    (hdepth : chain.depth tx = 0) (hstale : isStale relay p tx) :
    Stage chain relay p tx kind .offline
  /-- It is not mined. -/
  | unconfirmed (hfinal : chain.isFinal tx p.lockTimeThreshold) (hkind : kind ≠ .generated)
    (hdepth : chain.depth tx = 0) (hstale : ¬isStale relay p tx) :
    Stage chain relay p tx kind .unconfirmed
  /-- It is mined, but not deep enough. -/
  | confirming (hfinal : chain.isFinal tx p.lockTimeThreshold) (hkind : kind ≠ .generated)
    (hdepth : 0 < chain.depth tx) (hshallow : chain.depth tx < p.recommendedConfirmations) :
    Stage chain relay p tx kind .confirming
  /-- It is deep enough. -/
  | confirmed (hfinal : chain.isFinal tx p.lockTimeThreshold) (hkind : kind ≠ .generated)
    (hdepth : 0 < chain.depth tx) (hdeep : p.recommendedConfirmations ≤ chain.depth tx) :
    Stage chain relay p tx kind .confirmed

/-- The tree leads each record to its stage. -/
theorem stage_stateOf (chain : ChainView) (relay : RelayView) (p : Params) (tx : Transaction)
    (kind : RecordKind) : Stage chain relay p tx kind (stateOf chain relay p tx kind) := by
  rw [stateOf]
  cases hfinal : chain.isFinal tx p.lockTimeThreshold with
  | false =>
    rw [Bool.not_false, if_pos rfl]
    split_ifs with hlock
    · exact .openUntilBlock (by simp [hfinal]) hlock
    · exact .openUntilDate (by simp [hfinal]) hlock
  | true =>
    rw [Bool.not_true, if_neg Bool.false_ne_true]
    by_cases hkind : kind = .generated
    · rw [if_pos hkind]
      split_ifs with hwait hbest hstale
      · exact .matured hfinal hkind hwait
      · exact .notAccepted hfinal hkind hwait (by simpa using hbest)
      · exact .maturesWarning hfinal hkind hwait (by simpa using hbest) hstale
      · exact .immature hfinal hkind hwait (by simpa using hbest) hstale
    · rw [if_neg hkind]
      split_ifs with hneg hzero hstale hshallow
      · exact .conflicted hfinal hkind hneg
      · exact .offline hfinal hkind hzero hstale
      · exact .unconfirmed hfinal hkind hzero hstale
      · exact .confirming hfinal hkind (by omega) hshallow
      · exact .confirmed hfinal hkind (by omega) (by omega)

/-- No record is on the way to another state. -/
theorem Stage.stateOf_eq {s : TxState} (h : Stage chain relay p tx kind s) :
    stateOf chain relay p tx kind = s := by
  cases h with
  | openUntilBlock hopen hlock => simp [stateOf, hopen, hlock]
  | openUntilDate hopen hlock => simp [stateOf, hopen, hlock]
  | matured hfinal hkind hwait => simp [stateOf, hfinal, hkind, hwait]
  | notAccepted hfinal hkind hwait hbest => simp [stateOf, hfinal, hkind, hwait, hbest]
  | maturesWarning hfinal hkind hwait hbest hstale =>
    simp [stateOf, hfinal, hkind, hwait, hbest, hstale]
  | immature hfinal hkind hwait hbest hstale =>
    simp [stateOf, hfinal, hkind, hwait, hbest, hstale]
  | conflicted hfinal hkind hdepth => simp [stateOf, hfinal, hkind, hdepth]
  | offline hfinal hkind hdepth hstale => simp [stateOf, hfinal, hkind, hdepth, hstale]
  | unconfirmed hfinal hkind hdepth hstale => simp [stateOf, hfinal, hkind, hdepth, hstale]
  | confirming hfinal hkind hdepth hshallow =>
    have hneg : ¬chain.depth tx < 0 := Int.not_lt.mpr (Int.le_of_lt hdepth)
    simp [stateOf, hfinal, hkind, hneg, Int.ne_of_gt hdepth, hshallow]
  | confirmed hfinal hkind hdepth hdeep =>
    have hneg : ¬chain.depth tx < 0 := Int.not_lt.mpr (Int.le_of_lt hdepth)
    simp [stateOf, hfinal, hkind, hneg, Int.ne_of_gt hdepth, Int.not_lt.mpr hdeep]

/-- **A record is in the state that its stage says.** -/
theorem stateOf_eq_iff {s : TxState} :
    stateOf chain relay p tx kind = s ↔ Stage chain relay p tx kind s := by
  refine ⟨?_, Stage.stateOf_eq⟩
  rintro rfl
  exact stage_stateOf chain relay p tx kind

/-! ### Groups of states -/

/-- Only a block reward in the best chain is waiting to mature. -/
theorem stateOf_maturing_iff :
    stateOf chain relay p tx kind = .immature ∨ stateOf chain relay p tx kind = .maturesWarning ↔
      chain.isFinal tx p.lockTimeThreshold ∧ kind = .generated ∧
        chain.blocksToMaturity tx p.coinbaseMaturity ≠ 0 ∧ chain.inBestChain tx := by
  rw [stateOf_eq_iff, stateOf_eq_iff]
  constructor
  · rintro (h | h)
    · cases h with
      | immature hfinal hkind hwait hbest => exact ⟨hfinal, hkind, hwait, hbest⟩
    · cases h with
      | maturesWarning hfinal hkind hwait hbest => exact ⟨hfinal, hkind, hwait, hbest⟩
  · rintro ⟨hfinal, hkind, hwait, hbest⟩
    by_cases hstale : isStale relay p tx
    · exact .inr (.maturesWarning hfinal hkind hwait hbest hstale)
    · exact .inl (.immature hfinal hkind hwait hbest hstale)

/-- A block reward is confirmed once it need not wait, anything else once it is deep enough. -/
theorem stateOf_eq_confirmed_iff :
    stateOf chain relay p tx kind = .confirmed ↔
      chain.isFinal tx p.lockTimeThreshold ∧
        (kind = .generated ∧ chain.blocksToMaturity tx p.coinbaseMaturity = 0 ∨
          kind ≠ .generated ∧ 0 < chain.depth tx ∧
            p.recommendedConfirmations ≤ chain.depth tx) := by
  rw [stateOf_eq_iff]
  constructor
  · intro h
    cases h with
    | matured hfinal hkind hwait => exact ⟨hfinal, .inl ⟨hkind, hwait⟩⟩
    | confirmed hfinal hkind hdepth hdeep => exact ⟨hfinal, .inr ⟨hkind, hdepth, hdeep⟩⟩
  · rintro ⟨hfinal, ⟨hkind, hwait⟩ | ⟨hkind, hdepth, hdeep⟩⟩
    · exact .matured hfinal hkind hwait
    · exact .confirmed hfinal hkind hdepth hdeep

/-- A record is confirming or confirmed if it is a block reward that need not wait, or anything else
that is mined. -/
theorem stateOf_mined_iff :
    stateOf chain relay p tx kind = .confirming ∨ stateOf chain relay p tx kind = .confirmed ↔
      chain.isFinal tx p.lockTimeThreshold ∧
        (kind = .generated ∧ chain.blocksToMaturity tx p.coinbaseMaturity = 0 ∨
          kind ≠ .generated ∧ 0 < chain.depth tx) := by
  rw [stateOf_eq_confirmed_iff, stateOf_eq_iff]
  constructor
  · rintro (h | ⟨hfinal, hmatured | ⟨hkind, hdepth, _⟩⟩)
    · cases h with
      | confirming hfinal hkind hdepth => exact ⟨hfinal, .inr ⟨hkind, hdepth⟩⟩
    · exact ⟨hfinal, .inl hmatured⟩
    · exact ⟨hfinal, .inr ⟨hkind, hdepth⟩⟩
  · rintro ⟨hfinal, hmatured | ⟨hkind, hdepth⟩⟩
    · exact .inr ⟨hfinal, .inl hmatured⟩
    · by_cases hshallow : chain.depth tx < p.recommendedConfirmations
      · exact .inl (.confirming hfinal hkind hdepth hshallow)
      · exact .inr ⟨hfinal, .inr ⟨hkind, hdepth, Int.not_lt.mp hshallow⟩⟩

/-! ### The status -/

namespace Status

/-- The status of a record of a transaction, as far as the chain does not contradict itself about
the transaction. -/
def of (chain : ChainView) (relay : RelayView) (p : Params) (tx : Transaction) (r : Record) :
    Status where
  state := stateOf chain relay p tx r.kind
  sortKey := .of chain tx r.index
  depth := chain.depth tx
  maturesIn := ShieldedLedger.maturesIn chain p tx (stateOf chain relay p tx r.kind)
  openFor := ShieldedLedger.openFor chain tx (stateOf chain relay p tx r.kind)
  countsForBalance :=
    chain.isTrusted tx p.lockTimeThreshold && chain.blocksToMaturity tx p.coinbaseMaturity == 0
  tip := chain.height

variable {r : Record}

theorem derive_eq_ok_iff {s : Status} :
    derive chain relay p tx r = .ok s ↔
      ¬chain.contradicts tx ∧ s = of chain relay p tx r := by
  rw [derive]
  split
  · next h => exact ⟨nofun, fun hs => absurd h hs.1⟩
  · next h => exact ⟨fun hs => ⟨h, (Except.ok.inj hs).symm⟩, fun hs => congrArg _ hs.2.symm⟩

/-- Whether a status can be derived does not depend on the record. -/
theorem derive_eq_error_iff {e : LedgerError} :
    derive chain relay p tx r = .error e ↔
      chain.contradicts tx ∧ e = .missingBlockIndex tx.hash := by
  rw [derive]
  split
  · next h => exact ⟨fun he => ⟨h, (Except.error.inj he).symm⟩, fun he => congrArg _ he.2.symm⟩
  · next h => exact ⟨nofun, fun he => absurd he.1 h⟩

theorem countsForBalance_of :
    (of chain relay p tx r).countsForBalance = true ↔
      chain.isTrusted tx p.lockTimeThreshold ∧
        chain.blocksToMaturity tx p.coinbaseMaturity = 0 := by
  rw [of, Bool.and_eq_true, beq_iff_eq]

end Status

/-- A countdown is shown only while a record is waiting to mature. -/
theorem maturesIn_of_maturing {s : TxState} (h : s = .immature ∨ s = .maturesWarning) :
    maturesIn chain p tx s = chain.blocksToMaturity tx p.coinbaseMaturity := by
  rcases h with rfl | rfl <;> rfl

theorem maturesIn_of_not_maturing {s : TxState} (h : ¬(s = .immature ∨ s = .maturesWarning)) :
    maturesIn chain p tx s = 0 := by
  cases s <;> simp_all [maturesIn]

end ShieldedLedger
