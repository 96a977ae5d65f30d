import ShieldedLedger.Proofs.Balance
import ShieldedLedger.Snapshot

/-!
# A growing chain

Once a transaction is mined in the best chain, its records move in one direction only as long as the
chain grows: from open, through waiting or confirming, to confirmed. Three thresholds are passed on
the way, and each of them is passed for good. The lock time is passed by the next height or by the
median time; the recommended depth is reached after as many blocks, the transaction's own included;
a block reward has matured one block later than its maturity says, because its own block counts for
the depth and not for the maturity.

What the network says does not matter for this: it only tells two ways of waiting apart.

## Main definitions

* `ChainSnapshot.GrowsTo` — the same entries at a later tip
* `ChainEntry.mined` — mined in the best chain, with nothing else known
* `TxState.rank?` — how far a record has come on this way
* `Status.AdvancesTo` — one status comes after the other

## Main results

* `ChainSnapshot.GrowsTo.isFinal` — what is final stays final
* `ChainSnapshot.HasMined.stateOf_eq_confirmed_iff` — the thresholds, as heights of the tip
* `rank?_stateOf` — where on the way a record is
* `ChainSnapshot.exists_status_advancesTo` — the status at two tips
-/

namespace ShieldedLedger

/-! ### Chains that have grown -/

/-- A mined transaction of the best chain: there is no conflict, and no countdown but the one that
follows from its depth. -/
def ChainEntry.mined (blockHeight : Int) : ChainEntry where
  blockHeight? := some blockHeight
  inBestChain := true
  conflictDepth? := none
  blocksToMaturity? := none

namespace ChainSnapshot

variable {c c' : ChainSnapshot} {tx : Transaction} {b : Int} {p : Params} {kind : RecordKind}
  {relay : RelayView}

/-- One chain has grown into the other: it says the same of every transaction, and neither its tip
nor its median time has gone back. -/
structure GrowsTo (c c' : ChainSnapshot) : Prop where
  /-- Nothing else is known of any transaction. -/
  transactions_eq : c'.transactions = c.transactions
  /-- The tip is not lower. -/
  height_le : c.height ≤ c'.height
  /-- The median time is not earlier. -/
  time_le : c.medianTimePast ≤ c'.medianTimePast

theorem GrowsTo.entry?_eq (h : c.GrowsTo c') (txid : TxHash) : c'.entry? txid = c.entry? txid :=
  congrArg (·.get? txid) h.transactions_eq

/-- What is final stays final. -/
theorem GrowsTo.isFinal (h : c.GrowsTo c') {threshold : UInt32} (hfinal : c.isFinal tx threshold) :
    c'.isFinal tx threshold := by
  have htime : c.medianTimePast.toNat ≤ c'.medianTimePast.toNat :=
    UInt32.le_iff_toNat_le.mp h.time_le
  have hheight := h.height_le
  simp only [ChainSnapshot.isFinal, Bool.or_eq_true, decide_eq_true_eq] at hfinal ⊢
  refine hfinal.imp_right fun hpassed => ?_
  by_cases hlock : tx.lockTime < threshold
  · rw [if_pos hlock] at hpassed ⊢
    omega
  · rw [if_neg hlock] at hpassed ⊢
    omega

/-! ### A mined transaction -/

/-- The transaction was mined at a height that the tip has reached. -/
structure HasMined (c : ChainSnapshot) (tx : Transaction) (b : Int) : Prop where
  /-- Its entry says so. -/
  entry?_eq : c.entry? tx.hash = some (.mined b)
  /-- The block is not above the tip. -/
  le_height : b ≤ c.height

theorem GrowsTo.hasMined (h : c.GrowsTo c') (hmined : c.HasMined tx b) : c'.HasMined tx b :=
  ⟨(h.entry?_eq _).trans hmined.entry?_eq, Int.le_trans hmined.le_height h.height_le⟩

theorem HasMined.depth_eq (h : c.HasMined tx b) : c.view.depth tx = c.height - b + 1 := by
  simp only [view, depth, h.entry?_eq]
  rfl

theorem HasMined.depth_pos (h : c.HasMined tx b) : 0 < c.view.depth tx := by
  have hle := h.le_height
  rw [h.depth_eq]
  omega

theorem HasMined.inBestChain (h : c.HasMined tx b) : c.view.inBestChain tx := by
  simp only [view, h.entry?_eq]
  rfl

theorem HasMined.not_contradicts (h : c.HasMined tx b) : ¬c.view.contradicts tx := by
  have hblock : c.view.blockHeight? tx = some b := by
    simp only [view, h.entry?_eq]
    rfl
  simp [ChainView.contradicts, hblock]

/-- Without a countdown of its own, the wait follows from the depth. -/
theorem HasMined.derivesFor (h : c.HasMined tx b) : c.view.DerivesFor tx := by
  refine ⟨fun maturity => ?_, fun _ => rfl⟩
  have hnone : (c.entry? tx.hash).bind (·.blocksToMaturity?) = none := by
    rw [h.entry?_eq]
    rfl
  simp only [view, blocksToMaturity, hnone]
  cases tx.isCoinbase <;> rfl

theorem HasMined.blocksToMaturity_eq (h : c.HasMined tx b) (hcoinbase : tx.isCoinbase)
    (maturity : Int) :
    c.view.blocksToMaturity tx maturity = max (b + maturity - c.height) 0 := by
  rw [h.derivesFor.blocksToMaturity_eq, if_pos hcoinbase, h.depth_eq, countdown]
  omega

/-- The wait is over once the maturity has passed since the block, and at once for anything but a
block reward. -/
theorem HasMined.blocksToMaturity_eq_zero_iff (h : c.HasMined tx b) {maturity : Int} :
    c.view.blocksToMaturity tx maturity = 0 ↔ ¬tx.isCoinbase ∨ b + maturity ≤ c.height := by
  by_cases hcoinbase : tx.isCoinbase
  · rw [h.blocksToMaturity_eq hcoinbase]
    simp only [hcoinbase, not_true_eq_false, false_or]
    omega
  · exact iff_of_true (h.derivesFor.blocksToMaturity_eq_zero hcoinbase _) (.inl hcoinbase)

theorem GrowsTo.blocksToMaturity_eq_zero (hgrow : c.GrowsTo c') (h : c.HasMined tx b)
    {maturity : Int} (hwait : c.view.blocksToMaturity tx maturity = 0) :
    c'.view.blocksToMaturity tx maturity = 0 := by
  rw [h.blocksToMaturity_eq_zero_iff] at hwait
  rw [(hgrow.hasMined h).blocksToMaturity_eq_zero_iff]
  exact hwait.imp_right fun hle => Int.le_trans hle hgrow.height_le

/-- **The height at which a record is confirmed**, if it is final. -/
theorem HasMined.stateOf_eq_confirmed_iff (h : c.HasMined tx b) :
    stateOf c.view relay p tx kind = .confirmed ↔
      c.isFinal tx p.lockTimeThreshold ∧
        (kind ≠ .generated ∧ b + p.recommendedConfirmations - 1 ≤ c.height ∨
          kind = .generated ∧ (¬tx.isCoinbase ∨ b + p.coinbaseMaturity ≤ c.height)) := by
  have hdeep : 0 < c.view.depth tx ∧ p.recommendedConfirmations ≤ c.view.depth tx ↔
      b + p.recommendedConfirmations - 1 ≤ c.height := by
    rw [and_iff_right h.depth_pos, h.depth_eq]
    omega
  rw [ShieldedLedger.stateOf_eq_confirmed_iff, hdeep, h.blocksToMaturity_eq_zero_iff, or_comm]
  exact Iff.rfl

/-- What is confirmed stays confirmed. -/
theorem GrowsTo.stateOf_eq_confirmed (hgrow : c.GrowsTo c') (h : c.HasMined tx b)
    {relay' : RelayView} (hconfirmed : stateOf c.view relay p tx kind = .confirmed) :
    stateOf c'.view relay' p tx kind = .confirmed := by
  have hheight := hgrow.height_le
  rw [h.stateOf_eq_confirmed_iff] at hconfirmed
  rw [(hgrow.hasMined h).stateOf_eq_confirmed_iff]
  obtain ⟨hfinal, ⟨hkind, hdeep⟩ | ⟨hkind, hmatured⟩⟩ := hconfirmed
  · exact ⟨hgrow.isFinal hfinal, .inl ⟨hkind, Int.le_trans hdeep hheight⟩⟩
  · exact ⟨hgrow.isFinal hfinal,
      .inr ⟨hkind, hmatured.imp_right fun hle => Int.le_trans hle hheight⟩⟩

end ChainSnapshot

/-! ### The way of a mined record -/

/-- How far a record has come on the way from open to confirmed. The other states are not on this
way. -/
def TxState.rank? : TxState → Option Nat
  | openUntilBlock | openUntilDate => some 0
  | immature | maturesWarning | confirming => some 1
  | confirmed => some 2
  | notAccepted | conflicted | offline | unconfirmed => none

variable {chain : ChainView} {relay : RelayView} {p : Params} {tx : Transaction}
  {kind : RecordKind}

/-- **A record that is mined in the best chain is on its way**: it is open until it is final, and
then waits until it is confirmed. -/
theorem rank?_stateOf (hbest : chain.inBestChain tx) (hdepth : 0 < chain.depth tx) :
    (stateOf chain relay p tx kind).rank? =
      some (if ¬chain.isFinal tx p.lockTimeThreshold then 0
        else if stateOf chain relay p tx kind = .confirmed then 2 else 1) := by
  have hstage := stage_stateOf chain relay p tx kind
  generalize stateOf chain relay p tx kind = s at hstage ⊢
  cases hstage with
  | openUntilBlock hopen | openUntilDate hopen => rw [if_pos hopen]; rfl
  | matured hfinal | confirmed hfinal =>
    rw [if_neg (not_not_intro hfinal), if_pos rfl]
    rfl
  | maturesWarning hfinal | immature hfinal | confirming hfinal =>
    rw [if_neg (not_not_intro hfinal), if_neg nofun]
    rfl
  | notAccepted _ _ _ hother => exact absurd hbest hother
  | conflicted _ _ hneg => omega
  | offline _ _ hzero | unconfirmed _ _ hzero => omega

/-! ### Two tips -/

/-- The second status comes so many blocks after the first: the record has not gone back, what
counted still counts, and a countdown that goes on has gone on by as much. -/
structure Status.AdvancesTo (s s' : Status) (blocks : Int) : Prop where
  /-- Both are on the way, the second not behind the first. -/
  rank_le : ∃ n n', s.state.rank? = some n ∧ s'.state.rank? = some n' ∧ n ≤ n'
  /-- What counts for the balance goes on counting. -/
  countsForBalance : s.countsForBalance → s'.countsForBalance
  /-- The wait is shorter by the blocks in between. -/
  maturesIn : (s.state = .immature ∨ s.state = .maturesWarning) →
    (s'.state = .immature ∨ s'.state = .maturesWarning) → s.maturesIn - s'.maturesIn = blocks

namespace ChainSnapshot

variable {c c' : ChainSnapshot} {b : Int}

/-- A record does not go back on its way. -/
theorem GrowsTo.rank?_le (hgrow : c.GrowsTo c') (h : c.HasMined tx b) (relay relay' : RelayView)
    (p : Params) (kind : RecordKind) :
    ∃ n n', (stateOf c.view relay p tx kind).rank? = some n ∧
      (stateOf c'.view relay' p tx kind).rank? = some n' ∧ n ≤ n' := by
  have h' := hgrow.hasMined h
  refine ⟨_, _, rank?_stateOf h.inBestChain h.depth_pos,
    rank?_stateOf h'.inBestChain h'.depth_pos, ?_⟩
  by_cases hfinal : c.view.isFinal tx p.lockTimeThreshold
  · have hfinal' : c'.view.isFinal tx p.lockTimeThreshold := hgrow.isFinal hfinal
    rw [if_neg (not_not_intro hfinal), if_neg (not_not_intro hfinal')]
    by_cases hconfirmed : stateOf c.view relay p tx kind = .confirmed
    · have hconfirmed' : stateOf c'.view relay' p tx kind = .confirmed :=
        hgrow.stateOf_eq_confirmed h hconfirmed
      simp [hconfirmed, hconfirmed']
    · rw [if_neg hconfirmed]
      split <;> decide
  · rw [if_pos hfinal]
    exact Nat.zero_le _

/-- What counts for the balance is final and matured, and stays both. -/
theorem GrowsTo.countsForBalance_of (hgrow : c.GrowsTo c') (h : c.HasMined tx b)
    {relay' : RelayView} {r : Record} (hcounts : (Status.of c.view relay p tx r).countsForBalance) :
    (Status.of c'.view relay' p tx r).countsForBalance := by
  have h' := hgrow.hasMined h
  rw [Status.countsForBalance_of, h.derivesFor.isTrusted_iff] at hcounts
  rw [Status.countsForBalance_of, h'.derivesFor.isTrusted_iff]
  obtain ⟨⟨hfinal, _⟩, hwait⟩ := hcounts
  exact ⟨⟨hgrow.isFinal hfinal, h'.depth_pos⟩, hgrow.blocksToMaturity_eq_zero h hwait⟩

/-- A wait that is not over is as long as the maturity and the height of the block say. -/
theorem HasMined.maturesIn_of (h : c.HasMined tx b) {r : Record}
    (hmaturing : stateOf c.view relay p tx r.kind = .immature ∨
      stateOf c.view relay p tx r.kind = .maturesWarning) :
    (Status.of c.view relay p tx r).maturesIn = b + p.coinbaseMaturity - c.height := by
  have hshown : (Status.of c.view relay p tx r).maturesIn =
      c.view.blocksToMaturity tx p.coinbaseMaturity := maturesIn_of_maturing hmaturing
  obtain ⟨_, _, hwait, _⟩ := stateOf_maturing_iff.mp hmaturing
  have hcoinbase : tx.isCoinbase := Decidable.byContradiction fun hother =>
    hwait (h.derivesFor.blocksToMaturity_eq_zero hother _)
  rw [h.blocksToMaturity_eq hcoinbase] at hshown hwait
  omega

/-- **A mined transaction only moves forward while the chain grows.** Each of its records has a
status at both tips, the second comes after the first, and the record is confirmed once the
transaction is final and the tip has reached the height that the kind of the record asks for. -/
theorem exists_status_advancesTo (hgrow : c.GrowsTo c') (hmined : c.HasMined tx b)
    (relay relay' : RelayView) (p : Params) (r : Record) :
    ∃ s s', Status.derive c.view relay p tx r = .ok s ∧
      Status.derive c'.view relay' p tx r = .ok s' ∧
      s.AdvancesTo s' (c'.height - c.height) ∧
      (s.state = .confirmed ↔
        c.isFinal tx p.lockTimeThreshold ∧
          (r.kind ≠ .generated ∧ b + p.recommendedConfirmations - 1 ≤ c.height ∨
            r.kind = .generated ∧ (¬tx.isCoinbase ∨ b + p.coinbaseMaturity ≤ c.height))) := by
  have hmined' := hgrow.hasMined hmined
  refine ⟨_, _, Status.derive_eq_ok_iff.mpr ⟨hmined.not_contradicts, rfl⟩,
    Status.derive_eq_ok_iff.mpr ⟨hmined'.not_contradicts, rfl⟩, ?_,
    hmined.stateOf_eq_confirmed_iff⟩
  refine ⟨hgrow.rank?_le hmined relay relay' p r.kind, hgrow.countsForBalance_of hmined,
    fun hmaturing hmaturing' => ?_⟩
  rw [hmined.maturesIn_of hmaturing, hmined'.maturesIn_of hmaturing']
  omega

/-- A chain of some height that knows of one block reward, mined at a height of 10. -/
def sampleAt (height : Int) : ChainSnapshot :=
  (atHeight height).mine Transaction.sampleReward.hash 10

theorem hasMined_sampleAt {height : Int} (h : 10 ≤ height) :
    (sampleAt height).HasMined .sampleReward 10 :=
  ⟨SortedMap.get?_insert_self _ _ _, h⟩

/-- With a maturity of 100 the reward is not confirmed at a height of 50, but it is at one of
110. -/
theorem exists_status_advancesTo_sampleReward :
    ∃ s s', Status.derive (sampleAt 50).view .silent .standard .sampleReward
        (.fresh .sampleReward 0 .generated) = .ok s ∧
      Status.derive (sampleAt 110).view .silent .standard .sampleReward
        (.fresh .sampleReward 0 .generated) = .ok s' ∧
      s.AdvancesTo s' 60 ∧ s.state ≠ .confirmed ∧ s'.state = .confirmed := by
  have hgrow : (sampleAt 50).GrowsTo (sampleAt 110) := ⟨rfl, by decide, by decide⟩
  have hgrown : (sampleAt 110).GrowsTo (sampleAt 110) := ⟨rfl, by decide, by decide⟩
  obtain ⟨s, s', hs, hs', hadvances, hconfirmed⟩ := exists_status_advancesTo hgrow
    (hasMined_sampleAt (by decide)) .silent .silent .standard (.fresh .sampleReward 0 .generated)
  obtain ⟨t, _, ht, _, _, hconfirmed'⟩ := exists_status_advancesTo hgrown
    (hasMined_sampleAt (by decide)) .silent .silent .standard (.fresh .sampleReward 0 .generated)
  obtain rfl : t = s' := Except.ok.inj (ht.symm.trans hs')
  exact ⟨s, t, hs, ht, hadvances, fun h => absurd (hconfirmed.mp h) (by decide),
    hconfirmed'.mpr (by decide)⟩

end ChainSnapshot

end ShieldedLedger
