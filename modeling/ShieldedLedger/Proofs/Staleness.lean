import ShieldedLedger.Proofs.Stage

/-!
# What peers can colour

A status asks the network layer one thing only: whether nobody has asked for a transaction that the
wallet has known for long. The answer is used at two places of the tree, for block rewards that must
wait and for what is not mined, and at each of them it chooses between two states that differ in a
warning. So the network layer colours states that wait for the network anyway, and does nothing
else: whatever it says, the depth, the place, the countdowns and the balance stay as they are, and
a status that cannot be derived stays so.

## Main definitions

* `TxState.coloured` — the colour of a state under another view of the network

## Main results

* `stateOf_eq_coloured` — under another view a record is in the state of that colour
* `Status.derive_relay_eq` — and nothing else of its status changes
* `Status.derive_under_two_relays` — so two views agree but for the colour of pending states
-/

namespace ShieldedLedger

/-- What a state becomes when it is learned whether the transaction is stale. -/
def TxState.coloured (stale : Bool) : TxState → TxState
  | immature | maturesWarning => if stale then maturesWarning else immature
  | unconfirmed | offline => if stale then offline else unconfirmed
  | s => s

variable {chain : ChainView} {relay : RelayView} {p : Params} {tx : Transaction}
  {kind : RecordKind}

/-! ### States -/

/-- A block reward that must wait, whether or not anybody has asked for it. -/
theorem Stage.maturing (hfinal : chain.isFinal tx p.lockTimeThreshold) (hkind : kind = .generated)
    (hwait : chain.blocksToMaturity tx p.coinbaseMaturity ≠ 0) (hbest : chain.inBestChain tx) :
    Stage chain relay p tx kind (TxState.immature.coloured (isStale relay p tx)) := by
  cases hstale : isStale relay p tx with
  | true => exact .maturesWarning hfinal hkind hwait hbest hstale
  | false => exact .immature hfinal hkind hwait hbest (by simp [hstale])

/-- What is not mined, whether or not anybody has asked for it. -/
theorem Stage.unmined (hfinal : chain.isFinal tx p.lockTimeThreshold) (hkind : kind ≠ .generated)
    (hdepth : chain.depth tx = 0) :
    Stage chain relay p tx kind (TxState.unconfirmed.coloured (isStale relay p tx)) := by
  cases hstale : isStale relay p tx with
  | true => exact .offline hfinal hkind hdepth hstale
  | false => exact .unconfirmed hfinal hkind hdepth (by simp [hstale])

/-- What leads to a state under one view leads to its colour under another. -/
theorem Stage.coloured {s : TxState} (h : Stage chain relay p tx kind s) (relay' : RelayView) :
    Stage chain relay' p tx kind (s.coloured (isStale relay' p tx)) := by
  cases h with
  | openUntilBlock hopen hlock => exact .openUntilBlock hopen hlock
  | openUntilDate hopen hlock => exact .openUntilDate hopen hlock
  | matured hfinal hkind hwait => exact .matured hfinal hkind hwait
  | notAccepted hfinal hkind hwait hbest => exact .notAccepted hfinal hkind hwait hbest
  | maturesWarning hfinal hkind hwait hbest => exact .maturing hfinal hkind hwait hbest
  | immature hfinal hkind hwait hbest => exact .maturing hfinal hkind hwait hbest
  | conflicted hfinal hkind hdepth => exact .conflicted hfinal hkind hdepth
  | offline hfinal hkind hdepth => exact .unmined hfinal hkind hdepth
  | unconfirmed hfinal hkind hdepth => exact .unmined hfinal hkind hdepth
  | confirming hfinal hkind hdepth hshallow => exact .confirming hfinal hkind hdepth hshallow
  | confirmed hfinal hkind hdepth hdeep => exact .confirmed hfinal hkind hdepth hdeep

/-- **Under another view a record is in the same state, but for its colour.** -/
theorem stateOf_eq_coloured (chain : ChainView) (relay relay' : RelayView) (p : Params)
    (tx : Transaction) (kind : RecordKind) :
    stateOf chain relay' p tx kind =
      (stateOf chain relay p tx kind).coloured (isStale relay' p tx) :=
  ((stage_stateOf chain relay p tx kind).coloured relay').stateOf_eq

/-- What is not mined is unconfirmed or offline. -/
theorem stateOf_unmined_iff :
    stateOf chain relay p tx kind = .unconfirmed ∨ stateOf chain relay p tx kind = .offline ↔
      chain.isFinal tx p.lockTimeThreshold ∧ kind ≠ .generated ∧ chain.depth tx = 0 := by
  rw [stateOf_eq_iff, stateOf_eq_iff]
  constructor
  · rintro (h | h)
    · cases h with
      | unconfirmed hfinal hkind hdepth => exact ⟨hfinal, hkind, hdepth⟩
    · cases h with
      | offline hfinal hkind hdepth => exact ⟨hfinal, hkind, hdepth⟩
  · rintro ⟨hfinal, hkind, hdepth⟩
    by_cases hstale : isStale relay p tx
    · exact .inr (.offline hfinal hkind hdepth hstale)
    · exact .inl (.unconfirmed hfinal hkind hdepth hstale)

/-- A state changes its colour only within one of two pairs. -/
theorem TxState.coloured_ne {s : TxState} {stale : Bool} (h : s ≠ s.coloured stale) :
    (s = unconfirmed ∨ s = offline) ∧ [s, s.coloured stale].Perm [offline, unconfirmed] ∨
      (s = immature ∨ s = maturesWarning) ∧
        [s, s.coloured stale].Perm [maturesWarning, immature] := by
  revert h
  cases s <;> cases stale <;> decide

/-- No other state is the colour of anything else. -/
theorem TxState.coloured_eq_iff {s t : TxState} {stale : Bool}
    (h : t ∉ [immature, maturesWarning, unconfirmed, offline]) :
    s.coloured stale = t ↔ s = t := by
  revert h
  cases s <;> cases t <;> cases stale <;> decide

/-! ### Statuses -/

theorem maturesIn_coloured (chain : ChainView) (p : Params) (tx : Transaction) (s : TxState)
    (stale : Bool) : maturesIn chain p tx (s.coloured stale) = maturesIn chain p tx s := by
  cases s <;> cases stale <;> rfl

theorem openFor_coloured (chain : ChainView) (tx : Transaction) (s : TxState) (stale : Bool) :
    openFor chain tx (s.coloured stale) = openFor chain tx s := by
  cases s <;> cases stale <;> rfl

namespace Status

variable (chain : ChainView) (relay relay' : RelayView) (p : Params) (tx : Transaction) (r : Record)

/-- A status under another view of the network. -/
theorem of_relay_eq :
    of chain relay' p tx r =
      { of chain relay p tx r with
        state := (stateOf chain relay p tx r.kind).coloured (isStale relay' p tx) } := by
  simp only [of, stateOf_eq_coloured chain relay relay', maturesIn_coloured, openFor_coloured]

/-- **Under another view the status is the same, but for the colour of its state.** Where there is
none, there is none under any view. -/
theorem derive_relay_eq :
    derive chain relay' p tx r =
      (derive chain relay p tx r).map fun s =>
        { s with state := s.state.coloured (isStale relay' p tx) } := by
  cases h : derive chain relay p tx r with
  | error e => exact derive_eq_error_iff.mpr (derive_eq_error_iff.mp h)
  | ok s =>
    obtain ⟨hchain, rfl⟩ := derive_eq_ok_iff.mp h
    exact derive_eq_ok_iff.mpr ⟨hchain, (of_relay_eq chain relay relay' p tx r).symm⟩

/-- **Two views of the network agree but for the colour of pending states.** Either no status can be
derived under both, for the same reason, or both give the same status up to its state; and if the
states differ, then the transaction is final, and it is either not mined or a block reward that
waits in the best chain. -/
theorem derive_under_two_relays :
    (∃ e, derive chain relay p tx r = .error e ∧ derive chain relay' p tx r = .error e) ∨
    ∃ s s', derive chain relay p tx r = .ok s ∧ derive chain relay' p tx r = .ok s' ∧
      s' = { s with state := s'.state } ∧
      (s.state ≠ s'.state → chain.isFinal tx p.lockTimeThreshold ∧
        (r.kind ≠ .generated ∧ s.depth = 0 ∧ [s.state, s'.state].Perm [.offline, .unconfirmed] ∨
          r.kind = .generated ∧ chain.inBestChain tx ∧
            [s.state, s'.state].Perm [.maturesWarning, .immature])) ∧
      ∀ state ∈ [.openUntilBlock, .openUntilDate, .conflicted, .confirming, .confirmed,
        .notAccepted], s.state = state ↔ s'.state = state := by
  have hrelay := derive_relay_eq chain relay relay' p tx r
  cases h : derive chain relay p tx r with
  | error e => exact .inl ⟨e, rfl, by rw [hrelay, h]; rfl⟩
  | ok s =>
    obtain ⟨-, rfl⟩ := derive_eq_ok_iff.mp h
    refine .inr ⟨_, _, rfl, by rw [hrelay, h]; rfl, rfl, fun hne => ?_, fun state hstate => ?_⟩
    · rcases TxState.coloured_ne hne with ⟨hstate, hpair⟩ | ⟨hstate, hpair⟩
      · obtain ⟨hfinal, hkind, hdepth⟩ := stateOf_unmined_iff.mp hstate
        exact ⟨hfinal, .inl ⟨hkind, hdepth, hpair⟩⟩
      · obtain ⟨hfinal, hkind, -, hbest⟩ := stateOf_maturing_iff.mp hstate
        exact ⟨hfinal, .inr ⟨hkind, hbest, hpair⟩⟩
    · refine (TxState.coloured_eq_iff ?_).symm
      revert hstate
      cases state <;> decide

end Status

end ShieldedLedger
