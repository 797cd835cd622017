import CloudAudit.Proofs.Number.Order
import CloudAudit.Proofs.Service.Loading

namespace CloudAudit

open Number Result

/-- Whether a fault is that of a value: a variable is missing, or what it says is no number, not
above zero, or undefined where a whole number is wanted. -/
def SettingFault.isInvalidValue : SettingFault → Bool
  | .infiniteNumber | .tokenNotText _ => false
  | _ => true

namespace Environment

variable {env : Environment} {name : String} {default x : Float} {n : Int}

/-- What the number that a variable writes stands for. -/
def number? (env : Environment) (name : String) : Option Binary :=
  (ofText? (env.value name).toList).map Binary.ofFloat

/-- A variable that writes an undefined number. -/
def IsUndefined (env : Environment) (name : String) : Prop := env.number? name = some .nan

/-- A variable that writes a number between zero and one. -/
def IsFraction (env : Environment) (name : String) : Prop :=
  ∃ b ∈ env.number? name, b.isFraction = true

theorem positive_cases (h : env.positive name default = .ok x) :
    env.number? name = none ∧ x = default ∨
    env.number? name = some (Binary.ofFloat x) ∧
      ((Binary.ofFloat x).isPositive = true ∨ Binary.ofFloat x = .nan) := by
  rw [positive] at h
  split at h
  case isTrue hblank =>
    cases h
    refine .inl ⟨?_, rfl⟩
    rw [number?, hblank]
    rfl
  case isFalse =>
    split at h
    case h_1 => cases h
    case h_2 hx =>
      split at h
      case isTrue => cases h
      case isFalse hpos =>
        cases h
        refine .inr ⟨?_, not_le_zero_iff.mp hpos⟩
        rw [number?, hx]
        rfl

theorem positive_pos (h : env.positive name default = .ok x)
    (hd : (Binary.ofFloat default).isPositive = true) :
    0.0 < x ↔ ¬ env.IsUndefined name := by
  rw [zero_lt_iff, IsUndefined]
  obtain ⟨hn, rfl⟩ | ⟨hn, hpos | hnan⟩ := positive_cases h
  · rw [hn]
    exact ⟨fun _ => nofun, fun _ => hd⟩
  · rw [hn]
    refine ⟨fun _ hnan => ?_, fun _ => hpos⟩
    rw [Option.some.inj hnan] at hpos
    cases hpos
  · rw [hn, hnan]
    exact ⟨nofun, fun h => absurd rfl h⟩

theorem truncate?_of_wholePart (h : wholePart x = .ok n) : truncate? x = some n := by
  rw [wholePart, truncate?] at h
  rw [truncate?]
  cases hb : Binary.ofFloat x with
  | nan => rw [hb] at h; cases h
  | infinite negative => rw [hb] at h; cases h
  | finite negative m e =>
    rw [hb] at h
    exact congrArg some (Except.ok.inj h)

/-- A number whose fraction is cut off is not below zero; it is zero where the variable writes a
number below one. -/
theorem wholePart_pos (hx : env.positive name default = .ok x) (h : wholePart x = .ok n)
    (hd : (Binary.ofFloat default).isPositive = true)
    (hf : (Binary.ofFloat default).isFraction = false) :
    0 ≤ n ∧ (1 ≤ n ↔ ¬ env.IsFraction name) := by
  have ht := truncate?_of_wholePart h
  obtain ⟨hn, rfl⟩ | ⟨hn, hpos | hnan⟩ := positive_cases hx
  · obtain ⟨hle, hone⟩ := truncate?_of_isPositive ht hd
    refine ⟨hle, hone.trans ⟨fun _ => ?_, fun _ => hf⟩⟩
    rintro ⟨b, hb, -⟩
    rw [hn] at hb
    cases hb
  · obtain ⟨hle, hone⟩ := truncate?_of_isPositive ht hpos
    refine ⟨hle, hone.trans ?_⟩
    simp [IsFraction, hn]
  · rw [wholePart, hnan] at h
    cases h

theorem positive_refused :
    FailsOnly (fun f => f.isInvalidValue = true) (env.positive name default) := by
  intro f h
  rw [positive] at h
  split at h
  · cases h
  · split at h
    · cases h
      rfl
    · split at h
      · cases h
        rfl
      · cases h

theorem wholePart_refused (hx : env.positive name default = .ok x)
    (hd : ∀ negative, Binary.ofFloat default ≠ .infinite negative) :
    FailsOnly (fun f => f.isInvalidValue = true ∨ f = .infiniteNumber ∧ env.IsInfinite name)
      (wholePart x) := by
  intro f h
  rw [wholePart] at h
  split at h
  case h_1 =>
    cases h
    exact .inl rfl
  case h_2 negative hi =>
    cases h
    obtain rfl | hx := positive_ok hx
    · exact absurd hi (hd negative)
    · exact .inr ⟨rfl, x, negative, hx, hi⟩
  case h_3 => cases h

end Environment

/-! ### The settings of the client -/

theorem SettingFault.isReported_eq {f : SettingFault} :
    (InputFault.settings f).isReported = f.isInvalidValue := by
  cases f <;> rfl

theorem ClientConfig.ofEnvironment_refused (env : Environment) (given : Option String) :
    FailsOnly (fun f => f.isInvalidValue = true ∨ f = .infiniteNumber ∧
        (env.IsInfinite "LINODE_API_MAX_RETRIES" ∨ env.IsInfinite "LINODE_API_PAGE_SIZE"))
      (ClientConfig.ofEnvironment env (.ofOption given)) := by
  intro f h
  obtain hr | hs := ClientConfig.ofEnvironment_accounted env (.ofOption given) f h
  · exact .inl (SettingFault.isReported_eq ▸ hr)
  · cases hs with
    | token ht hs =>
      cases given with
      | none => cases ht
      | some s => exact absurd rfl hs
    | retries hinf => exact .inr ⟨rfl, .inl hinf⟩
    | pageSize hinf => exact .inr ⟨rfl, .inr hinf⟩

/-- Client settings that requests can be made with. -/
structure ClientConfig.Usable (c : ClientConfig) : Prop where
  timeout : 0.0 < c.timeoutSeconds
  retries : 0 ≤ c.maxRetries
  pageSize : 1 ≤ c.pageSize

theorem ClientConfig.usable_iff {env : Environment} {token : Json} {c : ClientConfig}
    (h : ClientConfig.ofEnvironment env token = .ok c) :
    c.Usable ↔ ¬ env.IsUndefined "LINODE_API_TIMEOUT_SECONDS" ∧
      ¬ env.IsFraction "LINODE_API_PAGE_SIZE" := by
  obtain ⟨token, -, h⟩ := bind_eq_ok.mp h
  obtain ⟨timeout, htimeout, h⟩ := bind_eq_ok.mp h
  obtain ⟨x, hx, h⟩ := bind_eq_ok.mp h
  obtain ⟨retries, hretries, h⟩ := bind_eq_ok.mp h
  obtain ⟨y, hy, h⟩ := bind_eq_ok.mp h
  obtain ⟨pageSize, hpageSize, h⟩ := bind_eq_ok.mp h
  obtain rfl : _ = c := Except.ok.inj h
  have ht := Environment.positive_pos htimeout (by decide +kernel)
  have hr := Environment.wholePart_pos hx hretries (by decide +kernel) (by decide +kernel)
  have hp := Environment.wholePart_pos hy hpageSize (by decide +kernel) (by decide +kernel)
  exact ⟨fun u => ⟨ht.mp u.timeout, hp.2.mp u.pageSize⟩,
    fun ⟨hnan, hfraction⟩ => ⟨ht.mpr hnan, hr.1, hp.2.mpr hfraction⟩⟩

/-! ### The settings of runs -/

theorem EvaluationSettings.ofEnvironment_refused (env : Environment) :
    FailsOnly (fun f => f.isInvalidValue = true ∨ f = .infiniteNumber ∧
        env.IsInfinite "COMPLIANCE_LIVE_CHECK_CONCURRENCY")
      (EvaluationSettings.ofEnvironment env) := by
  have hworkers : ∀ negative, Binary.ofFloat 4.0 ≠ .infinite negative := by decide +kernel
  rw [EvaluationSettings.ofEnvironment]
  refine failsOnly_bind.mpr ⟨fun f hf => .inl (Environment.positive_refused f hf), fun _ hx => ?_⟩
  refine failsOnly_bind.mpr ⟨fun f hf => .inl (Environment.positive_refused f hf), fun _ _ => ?_⟩
  refine failsOnly_bind.mpr ⟨Environment.wholePart_refused hx hworkers, fun _ _ => ?_⟩
  exact failsOnly_pure

/-- Settings that live checks can be run with. -/
structure EvaluationSettings.Usable (s : EvaluationSettings) : Prop where
  timeout : 0.0 < s.timeoutSeconds
  workers : 1 ≤ s.workers

theorem EvaluationSettings.usable_iff {env : Environment} {s : EvaluationSettings}
    (h : EvaluationSettings.ofEnvironment env = .ok s) :
    s.Usable ↔ ¬ env.IsUndefined "COMPLIANCE_LIVE_CHECK_TIMEOUT_SECONDS" ∧
      ¬ env.IsFraction "COMPLIANCE_LIVE_CHECK_CONCURRENCY" := by
  obtain ⟨x, hx, h⟩ := bind_eq_ok.mp h
  obtain ⟨timeout, htimeout, h⟩ := bind_eq_ok.mp h
  obtain ⟨workers, hworkers, h⟩ := bind_eq_ok.mp h
  obtain rfl : _ = s := Except.ok.inj h
  have ht := Environment.positive_pos htimeout (by decide +kernel)
  have hw := Environment.wholePart_pos hx hworkers (by decide +kernel) (by decide +kernel)
  exact ⟨fun u => ⟨ht.mp u.timeout, hw.2.mp u.workers⟩,
    fun ⟨hnan, hfraction⟩ => ⟨ht.mpr hnan, hw.2.mpr hfraction⟩⟩

/-! ### What the tests miss -/

/-- Whatever the variables say, they are refused for a value or give settings that can be used,
unless one of five writes a number that the tests miss: an infinite one or one below one where a
whole number is wanted, an undefined one as a time. -/
theorem settings_usable (env : Environment) (given : Option String) :
    (match ClientConfig.ofEnvironment env (.ofOption given) with
      | .ok c =>
        c.Usable ↔ ¬ env.IsUndefined "LINODE_API_TIMEOUT_SECONDS" ∧
          ¬ env.IsFraction "LINODE_API_PAGE_SIZE"
      | .error f =>
        f.isInvalidValue = true ∨ f = .infiniteNumber ∧
          (env.IsInfinite "LINODE_API_MAX_RETRIES" ∨ env.IsInfinite "LINODE_API_PAGE_SIZE")) ∧
    (match EvaluationSettings.ofEnvironment env with
      | .ok s =>
        s.Usable ↔ ¬ env.IsUndefined "COMPLIANCE_LIVE_CHECK_TIMEOUT_SECONDS" ∧
          ¬ env.IsFraction "COMPLIANCE_LIVE_CHECK_CONCURRENCY"
      | .error f =>
        f.isInvalidValue = true ∨ f = .infiniteNumber ∧
          env.IsInfinite "COMPLIANCE_LIVE_CHECK_CONCURRENCY") := by
  constructor
  · cases h : ClientConfig.ofEnvironment env (.ofOption given) with
    | ok c => exact ClientConfig.usable_iff h
    | error f => exact ClientConfig.ofEnvironment_refused env given f h
  · cases h : EvaluationSettings.ofEnvironment env with
    | ok s => exact EvaluationSettings.usable_iff h
    | error f => exact EvaluationSettings.ofEnvironment_refused env f h

/-- A page size of one half passes its test, and pages have no room. -/
theorem settings_usable_half :
    ∃ c, ClientConfig.ofEnvironment [("LINODE_API_PAGE_SIZE", "0.5")] (.ofOption (some "t")) =
        .ok c ∧ c.pageSize = 0 ∧ ¬ c.Usable := by
  have h : (ClientConfig.ofEnvironment [("LINODE_API_PAGE_SIZE", "0.5")]
      (.ofOption (some "t"))).toOption.map (·.pageSize) = some 0 := by decide +kernel
  obtain ⟨c, hc, hp⟩ := of_map_toOption h
  refine ⟨c, hc, hp, fun u => ?_⟩
  have hone := u.pageSize
  omega

end CloudAudit
