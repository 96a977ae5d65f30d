import ShieldedLedger.Proofs.Stage

/-!
# The balance and the state

A status says twice whether a record may be spent: a flag says whether it counts for the balance,
and the state says how far it has come. The flag is computed from the transaction, from whether the
chain trusts it and how long it must wait; the state is computed from the record, by the tree of its
stages. This file shows that the two agree, and that the countdown is shown in the states in which
there is something to wait for.

They agree for a chain that derives its trust and its countdown from the depth. A block reward that
need not wait is then deeper than its maturity, and the maturity of usable parameters is positive,
so such a reward is mined. For parameters that cannot be used, with a negative maturity, a reward
would be confirmed before it is mined.

## Main definitions

* `ChainView.DerivesFor` — the trust and the countdown follow from the other answers

## Main results

* `ChainView.DerivesFor.depth_pos` — a block reward that need not wait is mined
* `countsForBalance_iff_state` — the flag, the countdown and the state agree
-/

namespace ShieldedLedger

variable {chain : ChainView} {relay : RelayView} {p : Params} {tx : Transaction} {r : Record}

/-- The chain derives from its other answers whether it trusts a transaction and how long the
transaction must wait. -/
structure ChainView.DerivesFor (chain : ChainView) (tx : Transaction) : Prop where
  /-- A block reward waits for its countdown, and nothing else waits. -/
  blocksToMaturity_eq : ∀ maturity, chain.blocksToMaturity tx maturity =
    if tx.isCoinbase then countdown maturity (chain.depth tx) else 0
  /-- What is final and mined is trusted. -/
  isTrusted_eq : ∀ threshold, chain.isTrusted tx threshold =
    (chain.isFinal tx threshold && decide (1 ≤ chain.depth tx))

namespace ChainView

/-- A chain that does not say otherwise derives both, for every transaction. -/
theorem derivesFor_mk (height : Int) (isFinal : Transaction → UInt32 → Bool)
    (blockHeight? : Transaction → Option Int) (depth : Transaction → Int)
    (inBestChain : Transaction → Bool) (tx : Transaction) :
    ({ height, isFinal, blockHeight?, depth, inBestChain } : ChainView).DerivesFor tx :=
  ⟨fun _ => rfl, fun _ => rfl⟩

theorem DerivesFor.blocksToMaturity_nonneg (h : chain.DerivesFor tx) (maturity : Int) :
    0 ≤ chain.blocksToMaturity tx maturity := by
  rw [h.blocksToMaturity_eq]
  split
  · exact countdown_nonneg _ _
  · exact Int.le_refl 0

theorem DerivesFor.isTrusted_iff (h : chain.DerivesFor tx) {threshold : UInt32} :
    chain.isTrusted tx threshold ↔ chain.isFinal tx threshold ∧ 0 < chain.depth tx := by
  rw [h.isTrusted_eq, Bool.and_eq_true, decide_eq_true_eq]
  exact Iff.rfl

/-- A block reward that need not wait is deeper than its maturity, so it is mined. -/
theorem DerivesFor.depth_pos (h : chain.DerivesFor tx) (hcoinbase : tx.isCoinbase)
    {maturity : Int} (hmaturity : 0 < maturity) (hwait : chain.blocksToMaturity tx maturity = 0) :
    0 < chain.depth tx := by
  rw [h.blocksToMaturity_eq, if_pos hcoinbase, countdown_eq_zero_iff] at hwait
  omega

/-- What is no block reward need not wait. -/
theorem DerivesFor.blocksToMaturity_eq_zero (h : chain.DerivesFor tx)
    (hcoinbase : ¬tx.isCoinbase) (maturity : Int) : chain.blocksToMaturity tx maturity = 0 := by
  rw [h.blocksToMaturity_eq, if_neg hcoinbase]

end ChainView

/-- The flag asks of every record what the state asks of it according to its kind. -/
theorem countsForBalance_of_iff (hderives : chain.DerivesFor tx) (hvalid : p.Valid)
    (hkind : r.kind = .generated ↔ tx.isCoinbase) :
    (Status.of chain relay p tx r).countsForBalance ↔
      stateOf chain relay p tx r.kind = .confirming ∨
        stateOf chain relay p tx r.kind = .confirmed := by
  rw [Status.countsForBalance_of, hderives.isTrusted_iff, stateOf_mined_iff, and_assoc]
  refine and_congr_right fun _ => ?_
  by_cases hreward : r.kind = .generated
  · have hdepth := hderives.depth_pos (hkind.mp hreward) hvalid.1
    constructor
    · rintro ⟨_, hwait⟩
      exact .inl ⟨hreward, hwait⟩
    · rintro (⟨_, hwait⟩ | ⟨hother, _⟩)
      · exact ⟨hdepth hwait, hwait⟩
      · exact absurd hreward hother
  · have hwait := hderives.blocksToMaturity_eq_zero
      (fun hcoinbase => hreward (hkind.mpr hcoinbase)) p.coinbaseMaturity
    constructor
    · rintro ⟨hdepth, _⟩
      exact .inr ⟨hreward, hdepth⟩
    · rintro (⟨hgenerated, _⟩ | ⟨_, hdepth⟩)
      · exact absurd hgenerated hreward
      · exact ⟨hdepth, hwait⟩

/-- A record counts down exactly while it is waiting to mature. -/
theorem maturesIn_of_pos_iff (hderives : chain.DerivesFor tx) :
    0 < (Status.of chain relay p tx r).maturesIn ↔
      stateOf chain relay p tx r.kind = .immature ∨
        stateOf chain relay p tx r.kind = .maturesWarning := by
  constructor
  · intro hpos
    refine Decidable.byContradiction fun hother => ?_
    have hzero : (Status.of chain relay p tx r).maturesIn = 0 := maturesIn_of_not_maturing hother
    omega
  · intro hmaturing
    have hshown : (Status.of chain relay p tx r).maturesIn =
        chain.blocksToMaturity tx p.coinbaseMaturity := maturesIn_of_maturing hmaturing
    obtain ⟨_, _, hwait, _⟩ := stateOf_maturing_iff.mp hmaturing
    have hnonneg := hderives.blocksToMaturity_nonneg p.coinbaseMaturity
    omega

/-- **The flag, the countdown and the state agree.** -/
theorem countsForBalance_iff_state {s : Status} (hderives : chain.DerivesFor tx)
    (hvalid : p.Valid) (hkind : r.kind = .generated ↔ tx.isCoinbase)
    (h : Status.derive chain relay p tx r = .ok s) :
    (s.countsForBalance ↔ s.state = .confirming ∨ s.state = .confirmed) ∧
    (0 < s.maturesIn ↔ s.state = .immature ∨ s.state = .maturesWarning) ∧
    (¬(s.state = .immature ∨ s.state = .maturesWarning) → s.maturesIn = 0) := by
  obtain ⟨_, rfl⟩ := Status.derive_eq_ok_iff.mp h
  exact ⟨countsForBalance_of_iff hderives hvalid hkind, maturesIn_of_pos_iff hderives,
    maturesIn_of_not_maturing⟩

/-- A chain of 200 blocks in which every transaction is so deep. -/
def ChainView.sample (depth : Int) : ChainView where
  height := 200
  isFinal _ _ := true
  blockHeight? _ := some (201 - depth)
  depth _ := depth
  inBestChain _ := true

/-- A network in which nobody asks for anything. -/
def RelayView.silent : RelayView := ⟨fun _ => 0, fun _ => 1000⟩

/-- A block reward of the sample chain. -/
def Transaction.sampleReward : Transaction :=
  { Transaction.blank ⟨List.replicate 32 4, rfl⟩ 0 with isCoinbase := true }

/-- At a depth of 101 a block reward counts; at a depth of 41 it must wait for 60 blocks more. -/
theorem countsForBalance_iff_state_sampleReward :
    (∃ s, Status.derive (.sample 101) .silent .standard .sampleReward
        (.fresh .sampleReward 0 .generated) = .ok s ∧ s.countsForBalance ∧ s.maturesIn = 0) ∧
    ∃ s, Status.derive (.sample 41) .silent .standard .sampleReward
        (.fresh .sampleReward 0 .generated) = .ok s ∧ ¬s.countsForBalance ∧ 0 < s.maturesIn := by
  have hderives : ∀ depth, (ChainView.sample depth).DerivesFor .sampleReward := fun depth =>
    ChainView.derivesFor_mk _ _ _ _ _ _
  have hs : Status.derive (.sample 101) .silent .standard .sampleReward
      (.fresh .sampleReward 0 .generated) = .ok _ := rfl
  have hs' : Status.derive (.sample 41) .silent .standard .sampleReward
      (.fresh .sampleReward 0 .generated) = .ok _ := rfl
  obtain ⟨hcounts, _, hzero⟩ := countsForBalance_iff_state (hderives 101) (by decide) (by decide) hs
  obtain ⟨hcounts', hpos, _⟩ := countsForBalance_iff_state (hderives 41) (by decide) (by decide) hs'
  exact ⟨⟨_, hs, hcounts.mpr (by decide), hzero (by decide)⟩,
    _, hs', fun h => absurd (hcounts'.mp h) (by decide), hpos.mpr (by decide)⟩

/-- With a negative maturity a reward that is not mined is confirmed, and does not count. -/
example :
    let s := Status.of (.sample 0) .silent { Params.standard with coinbaseMaturity := -1 }
      .sampleReward (.fresh .sampleReward 0 .generated)
    s.state = .confirmed ∧ s.countsForBalance = false := by decide

end ShieldedLedger
