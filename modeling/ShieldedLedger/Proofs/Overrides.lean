import ShieldedLedger.Command.Run
import ShieldedLedger.Proofs.Numerals
import ShieldedLedger.Proofs.SavedSnapshot
import ShieldedLedger.Proofs.Traversal

/-!
# Effective parameters

A profile comes from the command line, from a saved bundle or from the environment, and in two of
these cases the environment may set single fields of it. This file says what the environment does
to a profile, exactly: which variables can be read, what the profile is then, when it is refused,
and for which reason. All variables are read before the profile is checked, so a variable that
cannot be read is reported before any fault of the numbers.

A profile that has been written into the environment is read from it again, so that nothing is lost
by passing parameters on in that way.

## Main definitions

* `ParamsField.Sets`, `ParamsField.Readable` — a text that a field can be set from
* `Params.Overrides` — a profile that differs from another one by what the environment sets
* `FirstUnreadable`, `Params.FirstFault` — the reasons for which parameters are refused
* `Params.Exported` — an environment that a profile was written into

## Main results

* `Params.withOverrides_eq` — the variables are read first, then the profile is checked
* `Params.overrides_iff` — the profile is determined by the base and the environment
* `Params.withOverrides_eq_ok_iff`, `Params.withOverrides_eq_error_iff` — the two outcomes
* `validate_of_resolveParams` — parameters that are used are valid, wherever they come from
* `Params.ofEnvironment_of_exported` — a profile comes back from the environment
* `Params.effective` — all of this
-/

namespace ShieldedLedger

/-! ### Variables -/

namespace ParamsField

/-- The fields, in the order in which their variables are read. -/
def all : List ParamsField :=
  [lockTimeThreshold, coinbaseMaturity, recommendedConfirmations, staleWindow, operationFee]

theorem mem_all (field : ParamsField) : field ∈ all := by
  cases field <;> decide

/-- Whether the number of a field may be written with a minus sign. -/
def signedness : ParamsField → Decimal.Signedness
  | lockTimeThreshold => .unsigned
  | coinbaseMaturity | recommendedConfirmations | staleWindow | operationFee => .signed

/-- The text stands for a number that the field can hold. -/
def Sets (field : ParamsField) (text : String) (z : Int) : Prop :=
  Decimal.Denotes field.signedness text z ∧ field.range.1 ≤ z ∧ z ≤ field.range.2

/-- The variable of the field can be read, if it is set. -/
def Readable (env : Environment) (field : ParamsField) : Prop :=
  ∀ text, env field.envName = some text → ∃ z, field.Sets text z

variable {env : Environment} {field : ParamsField} {text : String} {z : Int}

theorem readIn_trim_eq_some_iff :
    Decimal.readIn field.range.1 field.range.2 (Text.trim text) = some z ↔ field.Sets text z := by
  have hsign : (if field.range.1 < 0 then .signed else .unsigned) = field.signedness := by
    cases field <;> rfl
  rw [Decimal.readIn, hsign, Option.filter_eq_some_iff, Decimal.read_trim_eq_some_iff,
    Bool.and_eq_true, decide_eq_true_eq, decide_eq_true_eq]
  exact Iff.rfl

/-- No text stands for two numbers. -/
theorem Sets.unique {z' : Int} (h : field.Sets text z) (h' : field.Sets text z') : z = z' :=
  Option.some.inj ((readIn_trim_eq_some_iff.mpr h).symm.trans (readIn_trim_eq_some_iff.mpr h'))

theorem override_of_unset (h : env field.envName = none) : override env field = .ok none := by
  rw [override, h]

theorem override_of_sets (h : env field.envName = some text) (hsets : field.Sets text z) :
    override env field = .ok (some z) := by
  rw [override, h]
  simp only [readIn_trim_eq_some_iff.mpr hsets]

theorem override_of_not_sets (h : env field.envName = some text) (hsets : ∀ z, ¬field.Sets text z) :
    override env field = .error (.invalidParams (.unreadable field text)) := by
  have hnone : Decimal.readIn field.range.1 field.range.2 (Text.trim text) = none :=
    Option.eq_none_iff_forall_ne_some.mpr fun z hz => hsets z (readIn_trim_eq_some_iff.mp hz)
  rw [override, h]
  simp only [hnone]

/-- A variable cannot be read if its text stands for no number that the field can hold. -/
theorem override_eq_error_iff {e : LedgerError} : override env field = .error e ↔
    ∃ text, env field.envName = some text ∧ (∀ z, ¬field.Sets text z) ∧
      e = .invalidParams (.unreadable field text) := by
  constructor
  · intro h
    cases henv : env field.envName with
    | none =>
      rw [override_of_unset henv] at h
      cases h
    | some text =>
      by_cases hsets : ∃ z, field.Sets text z
      · obtain ⟨z, hz⟩ := hsets
        rw [override_of_sets henv hz] at h
        cases h
      · rw [override_of_not_sets henv (not_exists.mp hsets)] at h
        exact ⟨text, rfl, not_exists.mp hsets, (Except.error.inj h).symm⟩
  · rintro ⟨text, henv, hsets, rfl⟩
    exact override_of_not_sets henv hsets

theorem readable_iff : field.Readable env ↔ ∀ e, override env field ≠ .error e := by
  constructor
  · intro h e he
    obtain ⟨text, henv, hsets, -⟩ := override_eq_error_iff.mp he
    obtain ⟨z, hz⟩ := h text henv
    exact hsets z hz
  · intro h text henv
    by_contra hsets
    exact h _ (override_of_not_sets henv (not_exists.mp hsets))

end ParamsField

/-! ### Profiles -/

namespace Params

/-- The number that a profile has in a field. -/
def get (p : Params) : ParamsField → Int
  | .lockTimeThreshold => p.lockTimeThreshold.toNat
  | .coinbaseMaturity => p.coinbaseMaturity
  | .recommendedConfirmations => p.recommendedConfirmations
  | .staleWindow => p.staleWindow
  | .operationFee => p.operationFee

theorem ext_get {p q : Params} (hnetwork : p.network = q.network)
    (hget : ∀ field, p.get field = q.get field) : p = q := by
  have hthreshold : p.lockTimeThreshold = q.lockTimeThreshold :=
    UInt32.toNat_inj.mp (Int.ofNat_inj.mp (hget .lockTimeThreshold))
  have hmaturity := hget .coinbaseMaturity
  have hconfirmations := hget .recommendedConfirmations
  have hwindow := hget .staleWindow
  have hfee := hget .operationFee
  cases p
  cases q
  simp_all [get]

/-- One profile is the other with each field that the environment sets. -/
structure Overrides (env : Environment) (p q : Params) : Prop where
  /-- The network stays. -/
  network_eq : q.network = p.network
  /-- A field whose variable is not set stays. -/
  get_of_unset : ∀ field : ParamsField, env field.envName = none → q.get field = p.get field
  /-- A field whose variable is set has the number that the text stands for. -/
  sets : ∀ (field : ParamsField) (text : String), env field.envName = some text →
    field.Sets text (q.get field)

variable {env : Environment} {p q : Params}

/-- The number that a field has in the end. What cannot be read changes nothing here. -/
def valueIn (env : Environment) (p : Params) (field : ParamsField) : Int :=
  match field.override env with
  | .ok (some z) => z
  | .ok none | .error _ => p.get field

/-- The profile in the end. -/
def overridden (env : Environment) (p : Params) : Params where
  network := p.network
  lockTimeThreshold := UInt32.ofNat (p.valueIn env .lockTimeThreshold).toNat
  coinbaseMaturity := p.valueIn env .coinbaseMaturity
  recommendedConfirmations := p.valueIn env .recommendedConfirmations
  staleWindow := p.valueIn env .staleWindow
  operationFee := p.valueIn env .operationFee

theorem valueIn_of_ok {field : ParamsField} {v : Option Int} (h : field.override env = .ok v) :
    p.valueIn env field = v.getD (p.get field) := by
  rw [valueIn, h]
  cases v <;> rfl

theorem valueIn_of_unset {field : ParamsField} (h : env field.envName = none) :
    p.valueIn env field = p.get field :=
  valueIn_of_ok (ParamsField.override_of_unset h)

theorem valueIn_of_sets {field : ParamsField} {text : String} {z : Int}
    (h : env field.envName = some text) (hsets : field.Sets text z) : p.valueIn env field = z :=
  valueIn_of_ok (ParamsField.override_of_sets h hsets)

/-- **All variables are read first, then the profile is checked.** -/
theorem withOverrides_eq (env : Environment) (p : Params) :
    p.withOverrides env = do
      let _ ← ParamsField.all.mapM (ParamsField.override env)
      (p.overridden env).validate
      return p.overridden env := by
  simp only [withOverrides, ParamsField.all, List.mapM_cons, List.mapM_nil, bind_assoc, pure_bind]
  refine bind_congr_of_ok fun threshold hthreshold => ?_
  refine bind_congr_of_ok fun maturity hmaturity => ?_
  refine bind_congr_of_ok fun confirmations hconfirmations => ?_
  refine bind_congr_of_ok fun window hwindow => ?_
  refine bind_congr_of_ok fun fee hfee => ?_
  have hword : (threshold.map fun z => UInt32.ofNat z.toNat).getD p.lockTimeThreshold =
      UInt32.ofNat (p.valueIn env .lockTimeThreshold).toNat := by
    rw [valueIn_of_ok hthreshold]
    cases threshold with
    | none => exact UInt32.ofNat_toNat.symm
    | some z => rfl
  rw [hword, overridden, valueIn_of_ok hmaturity, valueIn_of_ok hconfirmations,
    valueIn_of_ok hwindow, valueIn_of_ok hfee]
  rfl

/-! ### What the environment does to a profile -/

/-- A variable that can be read keeps its field within range, if it is set. -/
theorem valueIn_cases {field : ParamsField} (h : field.Readable env) :
    (env field.envName = none ∧ p.valueIn env field = p.get field) ∨
      ∃ text, env field.envName = some text ∧ field.Sets text (p.valueIn env field) := by
  cases henv : env field.envName with
  | none => exact .inl ⟨rfl, valueIn_of_unset henv⟩
  | some text =>
    obtain ⟨z, hz⟩ := h text henv
    refine .inr ⟨text, rfl, ?_⟩
    rwa [valueIn_of_sets henv hz]

/-- Every field of the profile has room for its number. -/
theorem get_overridden {field : ParamsField} (h : field.Readable env) :
    (p.overridden env).get field = p.valueIn env field := by
  cases field with
  | lockTimeThreshold =>
    have hrange : 0 ≤ p.valueIn env .lockTimeThreshold ∧
        p.valueIn env .lockTimeThreshold ≤ 4294967295 := by
      rcases valueIn_cases h with ⟨-, hvalue⟩ | ⟨text, -, hsets⟩
      · have hword := p.lockTimeThreshold.toNat_lt
        rw [hvalue, get]
        omega
      · exact hsets.2
    have hword : (p.valueIn env .lockTimeThreshold).toNat < UInt32.size := by
      simp only [UInt32.size]
      omega
    change ((UInt32.ofNat _).toNat : Int) = _
    rw [UInt32.toNat_ofNat_of_lt' hword]
    omega
  | coinbaseMaturity | recommendedConfirmations | staleWindow | operationFee => rfl

theorem overrides_overridden (h : ∀ field : ParamsField, field.Readable env) :
    Overrides env p (p.overridden env) where
  network_eq := rfl
  get_of_unset field henv := by
    rw [get_overridden (h field), valueIn_of_unset henv]
  sets field text henv := by
    obtain ⟨z, hz⟩ := h field text henv
    rwa [get_overridden (h field), valueIn_of_sets henv hz]

theorem Overrides.readable (h : Overrides env p q) (field : ParamsField) : field.Readable env :=
  fun text henv => ⟨q.get field, h.sets field text henv⟩

/-- **The profile is determined by the base and the environment**, and there is one if and only if
each variable that is set can be read. -/
theorem overrides_iff :
    Overrides env p q ↔ (∀ field : ParamsField, field.Readable env) ∧ q = p.overridden env := by
  constructor
  · intro h
    refine ⟨h.readable, ext_get h.network_eq fun field => ?_⟩
    rw [get_overridden (h.readable field)]
    cases henv : env field.envName with
    | none => rw [h.get_of_unset field henv, valueIn_of_unset henv]
    | some text => rw [valueIn_of_sets henv (h.sets field text henv)]
  · rintro ⟨h, rfl⟩
    exact overrides_overridden h

theorem existsUnique_overrides_iff :
    (∃! q, Overrides env p q) ↔ ∀ field : ParamsField, field.Readable env := by
  constructor
  · rintro ⟨q, hq, -⟩
    exact hq.readable
  · intro h
    exact ⟨_, overrides_overridden h, fun q hq => (overrides_iff.mp hq).2⟩

/-! ### Checks -/

/-- The reason for which the profile is refused: the first check that fails, of maturity,
confirmations, window and fee in this order. -/
inductive FirstFault (p : Params) : ParamsFault → Prop
  | maturity : p.coinbaseMaturity ≤ 0 →
      FirstFault p (.notPositive .coinbaseMaturity p.coinbaseMaturity)
  | confirmations : 0 < p.coinbaseMaturity → p.recommendedConfirmations ≤ 0 →
      FirstFault p (.notPositive .recommendedConfirmations p.recommendedConfirmations)
  | window : 0 < p.coinbaseMaturity → 0 < p.recommendedConfirmations → p.staleWindow < 0 →
      FirstFault p (.negative .staleWindow p.staleWindow)
  | fee : 0 < p.coinbaseMaturity → 0 < p.recommendedConfirmations → 0 ≤ p.staleWindow →
      p.operationFee < 0 → FirstFault p (.negative .operationFee p.operationFee)

theorem fault?_eq_some_iff {fault : ParamsFault} : p.fault? = some fault ↔ p.FirstFault fault := by
  constructor
  · intro h
    rw [fault?] at h
    split_ifs at h with hmaturity hconfirmations hwindow hfee
    all_goals cases h
    · exact .maturity hmaturity
    · exact .confirmations (Int.not_le.mp hmaturity) hconfirmations
    · exact .window (Int.not_le.mp hmaturity) (Int.not_le.mp hconfirmations) hwindow
    · exact .fee (Int.not_le.mp hmaturity) (Int.not_le.mp hconfirmations) (Int.not_lt.mp hwindow)
        hfee
  · rintro (h | ⟨hmaturity, h⟩ | ⟨hmaturity, hconfirmations, h⟩ |
      ⟨hmaturity, hconfirmations, hwindow, h⟩)
    · rw [fault?, if_pos h]
    · rw [fault?, if_neg (Int.not_le.mpr hmaturity), if_pos h]
    · rw [fault?, if_neg (Int.not_le.mpr hmaturity), if_neg (Int.not_le.mpr hconfirmations),
        if_pos h]
    · rw [fault?, if_neg (Int.not_le.mpr hmaturity), if_neg (Int.not_le.mpr hconfirmations),
        if_neg (Int.not_lt.mpr hwindow), if_pos h]

theorem validate_eq_ok_iff : p.validate = .ok () ↔ p.Valid := by
  rw [← fault?_eq_none_iff, validate]
  cases p.fault? <;> simp

theorem validate_eq_error_iff {e : LedgerError} :
    p.validate = .error e ↔ ∃ fault, p.FirstFault fault ∧ e = .invalidParams fault := by
  simp only [← fault?_eq_some_iff, validate]
  cases p.fault? <;> simp [eq_comm]

end Params

/-! ### Outcomes -/

/-- The first variable that cannot be read, in the order of the fields. -/
inductive FirstUnreadable (env : Environment) : ParamsFault → Prop
  | mk {before after : List ParamsField} {field : ParamsField} {text : String} :
      ParamsField.all = before ++ field :: after → (∀ f ∈ before, f.Readable env) →
      env field.envName = some text → (∀ z, ¬field.Sets text z) →
      FirstUnreadable env (.unreadable field text)

namespace ParamsField

variable {env : Environment}

theorem exists_mapM_override_eq_ok_iff :
    (∃ vs, all.mapM (override env) = .ok vs) ↔ ∀ field : ParamsField, field.Readable env := by
  constructor
  · rintro ⟨vs, hvs⟩ field
    obtain ⟨v, hv⟩ := exists_ok_of_mapM hvs field (mem_all field)
    refine readable_iff.mpr fun e he => ?_
    rw [hv] at he
    cases he
  · intro h
    cases hall : all.mapM (override env) with
    | ok vs => exact ⟨vs, rfl⟩
    | error e =>
      obtain ⟨_, field, _, -, -, hfield⟩ := mapM_eq_error_iff.mp hall
      exact absurd hfield (readable_iff.mp (h field) e)

theorem mapM_override_eq_error_iff {e : LedgerError} :
    all.mapM (override env) = .error e ↔
      ∃ fault, e = .invalidParams fault ∧ FirstUnreadable env fault := by
  rw [mapM_eq_error_iff]
  constructor
  · rintro ⟨before, field, after, hsplit, hbefore, hfield⟩
    obtain ⟨text, henv, hsets, rfl⟩ := override_eq_error_iff.mp hfield
    exact ⟨_, rfl, .mk hsplit (fun f hf => readable_iff.mpr (hbefore f hf)) henv hsets⟩
  · rintro ⟨_, rfl, ⟨hsplit, hbefore, henv, hsets⟩⟩
    exact ⟨_, _, _, hsplit, fun f hf => readable_iff.mp (hbefore f hf),
      override_of_not_sets henv hsets⟩

end ParamsField

namespace Params

variable {env : Environment} {p q : Params}

/-- **The overrides succeed if and only if all variables can be read and the profile is valid.** -/
theorem withOverrides_eq_ok_iff :
    p.withOverrides env = .ok q ↔ Overrides env p q ∧ q.validate = .ok () := by
  rw [withOverrides_eq, bind_eq_ok_iff, overrides_iff, ← ParamsField.exists_mapM_override_eq_ok_iff]
  constructor
  · rintro ⟨vs, hvs, h⟩
    obtain ⟨⟨⟩, hvalid, hq⟩ := bind_eq_ok_iff.mp h
    cases hq
    exact ⟨⟨⟨vs, hvs⟩, rfl⟩, hvalid⟩
  · rintro ⟨⟨⟨vs, hvs⟩, rfl⟩, hvalid⟩
    exact ⟨vs, hvs, bind_eq_ok_iff.mpr ⟨(), hvalid, rfl⟩⟩

/-- **They fail with the first variable that cannot be read, or else with the first check that
fails.** -/
theorem withOverrides_eq_error_iff {e : LedgerError} :
    p.withOverrides env = .error e ↔ ∃ fault, e = .invalidParams fault ∧
      (FirstUnreadable env fault ∨ ∃ q, Overrides env p q ∧ q.FirstFault fault) := by
  rw [withOverrides_eq, bind_eq_error_iff, ParamsField.mapM_override_eq_error_iff]
  constructor
  · rintro (⟨fault, rfl, hfirst⟩ | ⟨vs, hvs, h⟩)
    · exact ⟨fault, rfl, .inl hfirst⟩
    · obtain ⟨fault, hfault, rfl⟩ := validate_eq_error_iff.mp (bind_pure_eq_error_iff.mp h)
      have hread := ParamsField.exists_mapM_override_eq_ok_iff.mp ⟨vs, hvs⟩
      exact ⟨fault, rfl, .inr ⟨_, overrides_overridden hread, hfault⟩⟩
  · rintro ⟨fault, rfl, hfirst | ⟨q, hq, hfault⟩⟩
    · exact .inl ⟨fault, rfl, hfirst⟩
    · obtain ⟨hread, rfl⟩ := overrides_iff.mp hq
      obtain ⟨vs, hvs⟩ := ParamsField.exists_mapM_override_eq_ok_iff.mpr hread
      have hvalidate := validate_eq_error_iff.mpr ⟨fault, hfault, rfl⟩
      exact .inr ⟨vs, hvs, bind_pure_eq_error_iff.mpr hvalidate⟩

theorem validate_of_ofEnvironment (h : ofEnvironment env = .ok p) : p.validate = .ok () := by
  rw [ofEnvironment] at h
  split at h
  · obtain ⟨network, -, hoverrides⟩ := bind_eq_ok_iff.mp h
    exact (withOverrides_eq_ok_iff.mp hoverrides).2
  · exact (withOverrides_eq_ok_iff.mp h).2

end Params

theorem during_eq_ok_iff {α : Type} {context : String} {r : Except LedgerError α} {a : α} :
    during context r = .ok a ↔ r = .ok a := by
  cases r <;> simp [during, Except.mapError]

/-- **Parameters that are used are valid**, wherever they come from. -/
theorem validate_of_resolveParams {env : Environment} {network? : Option Network}
    {saved? : Option Params} {p : Params} {source : ParamsSource}
    (h : resolveParams env network? saved? = .ok (p, source)) : p.validate = .ok () := by
  match network?, saved? with
  | some network, _ =>
    obtain ⟨q, hq, hpair⟩ := bind_eq_ok_iff.mp h
    cases hpair
    exact (Params.withOverrides_eq_ok_iff.mp (during_eq_ok_iff.mp hq)).2
  | none, some saved =>
    obtain ⟨⟨⟩, hvalid, hpair⟩ := bind_eq_ok_iff.mp h
    cases hpair
    exact during_eq_ok_iff.mp hvalid
  | none, none =>
    obtain ⟨q, hq, hpair⟩ := bind_eq_ok_iff.mp h
    cases hpair
    exact Params.validate_of_ofEnvironment (during_eq_ok_iff.mp hq)

/-! ### There and back -/

theorem Network.ofText_name (network : Network) : ofText network.name = .ok network := by
  cases network <;> decide +kernel

namespace Params

/-- The environment holds the name of the network and the five numbers as text, each of which may
have blanks around it. -/
structure Exported (env : Environment) (p : Params) : Prop where
  /-- The name of the network is exported. -/
  network : env networkVariable = some p.network.name
  /-- So are the numbers. -/
  field : ∀ field : ParamsField, ∃ before after : List Char,
    (∀ c ∈ before, Text.isBlank c) ∧ (∀ c ∈ after, Text.isBlank c) ∧
      env field.envName =
        some (String.ofList before ++ Decimal.ofInt (p.get field) ++ String.ofList after)

variable {env : Environment} {p : Params}

/-- What a profile has in a field fits it. -/
theorem get_mem_range (h : p.InRange) (field : ParamsField) :
    field.range.1 ≤ p.get field ∧ p.get field ≤ field.range.2 := by
  cases field with
  | lockTimeThreshold =>
    have hword := p.lockTimeThreshold.toNat_lt
    rw [get, ParamsField.range]
    omega
  | coinbaseMaturity => exact h.coinbaseMaturity
  | recommendedConfirmations => exact h.recommendedConfirmations
  | staleWindow => exact h.staleWindow
  | operationFee => exact h.operationFee

theorem nonneg_or_signed (p : Params) (field : ParamsField) :
    0 ≤ p.get field ∨ field.signedness = .signed := by
  cases field with
  | lockTimeThreshold => exact .inl (Int.natCast_nonneg _)
  | coinbaseMaturity | recommendedConfirmations | staleWindow | operationFee => exact .inr rfl

/-- Whatever the base is, all that was exported is set again. -/
theorem Exported.overrides (h : Exported env p) (hrange : p.InRange) {base : Params}
    (hbase : base.network = p.network) : Overrides env base p where
  network_eq := hbase.symm
  get_of_unset field henv := by
    obtain ⟨before, after, -, -, htext⟩ := h.field field
    rw [henv] at htext
    cases htext
  sets field text henv := by
    obtain ⟨before, after, hbefore, hafter, htext⟩ := h.field field
    rw [henv] at htext
    cases htext
    exact ⟨Decimal.denotes_ofInt hbefore hafter (p.nonneg_or_signed field),
      get_mem_range hrange field⟩

/-- **A profile comes back from the environment it was exported to.** -/
theorem ofEnvironment_of_exported (h : Exported env p) (hrange : p.InRange)
    (hvalid : p.validate = .ok ()) : ofEnvironment env = .ok p := by
  rw [ofEnvironment, h.network]
  simp only [Network.ofText_name]
  exact withOverrides_eq_ok_iff.mpr ⟨h.overrides hrange rfl, hvalid⟩

/-- **Effective parameters are valid, and the environment overrides exactly what it sets.** The
overrides of an environment determine one profile if all variables that are set can be read, and
succeed with it if it is valid; else they fail with the first variable that cannot be read, or with
the first check that fails. So parameters from any source are valid, and a valid profile comes back
from an environment that it was exported to. -/
theorem effective (env : Environment) (p : Params) :
    (∀ q, p.withOverrides env = .ok q ↔ Overrides env p q ∧ q.validate = .ok ()) ∧
    ((∃! q, Overrides env p q) ↔ ∀ field : ParamsField, field.Readable env) ∧
    (∀ e, p.withOverrides env = .error e ↔ ∃ fault, e = .invalidParams fault ∧
      (FirstUnreadable env fault ∨ ∃ q, Overrides env p q ∧ q.FirstFault fault)) ∧
    (∀ q : Params, q.validate = .ok () ↔ q.Valid) ∧
    (∀ network? saved? q source, resolveParams env network? saved? = .ok (q, source) →
      q.validate = .ok ()) ∧
    (p.InRange → p.validate = .ok () → Exported env p →
      ofEnvironment env = .ok p ∧ resolveParams env none none = .ok (p, .environment)) := by
  refine ⟨fun q => withOverrides_eq_ok_iff, existsUnique_overrides_iff,
    fun e => withOverrides_eq_error_iff, fun q => validate_eq_ok_iff,
    fun _ _ _ _ => validate_of_resolveParams, fun hrange hvalid hexported => ?_⟩
  have hback := ofEnvironment_of_exported hexported hrange hvalid
  refine ⟨hback, ?_⟩
  rw [resolveParams, hback]
  rfl

/-- An environment that a profile is exported to, with a tab before and an ideographic space behind
each number. -/
def sampleEnvironment (p : Params) : Environment := fun name =>
  if name = networkVariable then some p.network.name
  else (ParamsField.all.find? (·.envName = name)).map fun field =>
    String.ofList ['\t'] ++ Decimal.ofInt (p.get field) ++ String.ofList ['\u3000']

theorem exported_sampleEnvironment (p : Params) : Exported p.sampleEnvironment p where
  network := rfl
  field field := by
    refine ⟨['\t'], ['\u3000'], List.forall_mem_singleton.mpr rfl,
      List.forall_mem_singleton.mpr rfl, ?_⟩
    cases field <;> rfl

/-- A profile of its own, with the largest numbers that fit two of its fields. -/
def sampleProfile : Params := ⟨.regtest, 4294967295, 1, 2147483647, 0, 5⟩

theorem effective_sampleProfile :
    ofEnvironment sampleProfile.sampleEnvironment = .ok sampleProfile ∧
      resolveParams sampleProfile.sampleEnvironment none none =
        .ok (sampleProfile, .environment) ∧
      sampleProfile.validate = .ok () := by
  have heffective := effective sampleProfile.sampleEnvironment sampleProfile
  have hback := heffective.2.2.2.2.2 ⟨by decide, by decide, by decide, by decide⟩ rfl
    (exported_sampleEnvironment sampleProfile)
  exact ⟨hback.1, hback.2, heffective.2.2.2.2.1 none none _ _ hback.2⟩

end Params

end ShieldedLedger
