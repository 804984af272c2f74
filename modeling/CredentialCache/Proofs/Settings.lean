import CredentialCache.Proofs.Telemetry.Shared
/-!
# Settings checked alike at start-up

Settings are checked twice: by validation, which reports the first fault as an invalid setting,
and by building the stores, which stops at the first setting it cannot use and reports it as an
invalid argument. Both check the code ttl, then the code length, then the token sweep interval,
against the same bounds: a duration lies between one second and the largest number of seconds
whose milliseconds fit a signed 64-bit word, and a code has at least one character. So the stores
can be built exactly from valid settings, a faulty setting is reported by both, and built stores
hold the durations in milliseconds, the code length and the retry bound as set.
-/

namespace CredentialCache

/-- The settings checked at start-up, in the order they are checked. -/
inductive CheckedSetting
  | codeTtl
  | codeLength
  | tokenSweepInterval
deriving DecidableEq, Repr

namespace CheckedSetting

def path : CheckedSetting → String
  | codeTtl => "authorization_code.ttl_secs"
  | codeLength => "authorization_code.code_length"
  | tokenSweepInterval => "revocable_token.sweep_interval_secs"

def value (c : AppConfig) : CheckedSetting → Nat
  | codeTtl => c.codes.ttlSecs
  | codeLength => c.codes.codeLength
  | tokenSweepInterval => c.tokens.sweepIntervalSecs

/-- What validation says of a setting at fault: a zero is not positive, a larger value is out of
range. -/
def complaint (c : AppConfig) (f : CheckedSetting) : String :=
  if f.value c = 0 then s!"{f.path} must be positive"
  else s!"{f.path} is out of range: {f.value c}"

/-- What building the stores says of a setting at fault: the code generator refuses a code length
in its own words, and a duration is refused with the text of its settings error. -/
def buildComplaint (c : AppConfig) : CheckedSetting → String
  | codeLength => "Authorization code length must be positive"
  | f => (ConfigError.invalid (f.complaint c)).message

end CheckedSetting

def AppConfig.firstFault (c : AppConfig) : Option CheckedSetting :=
  if ¬ (1 ≤ c.codes.ttlSecs ∧ c.codes.ttlSecs ≤ maxWholeSecs) then some .codeTtl
  else if c.codes.codeLength = 0 then some .codeLength
  else if ¬ (1 ≤ c.tokens.sweepIntervalSecs ∧ c.tokens.sweepIntervalSecs ≤ maxWholeSecs) then
    some .tokenSweepInterval
  else none

private theorem maxWholeSecs_eq : maxWholeSecs = (2 ^ 63 - 1) / 1000 := by
  norm_num [maxWholeSecs]

private theorem positiveSecs_eq (setting : String) (n : Nat) :
    positiveSecs setting n = if 1 ≤ n ∧ n ≤ maxWholeSecs then .ok (n * 1000)
      else .error (.invalid (if n = 0 then s!"{setting} must be positive"
        else s!"{setting} is out of range: {n}")) := by
  unfold positiveSecs
  by_cases h0 : n = 0
  · simp [h0]
  · by_cases hmax : n ≤ maxWholeSecs <;> simp [h0, hmax]

namespace AppConfig

variable {α β : Type} (c : AppConfig)

private theorem codes_ttl_eq : c.codes.ttl =
    if 1 ≤ c.codes.ttlSecs ∧ c.codes.ttlSecs ≤ maxWholeSecs then .ok (c.codes.ttlSecs * 1000)
    else .error (.invalid (CheckedSetting.codeTtl.complaint c)) :=
  positiveSecs_eq _ _

private theorem tokens_sweepInterval_eq : c.tokens.sweepInterval =
    if 1 ≤ c.tokens.sweepIntervalSecs ∧ c.tokens.sweepIntervalSecs ≤ maxWholeSecs
    then .ok (c.tokens.sweepIntervalSecs * 1000)
    else .error (.invalid (CheckedSetting.tokenSweepInterval.complaint c)) :=
  positiveSecs_eq _ _

private theorem validate_eq : c.validate = match c.firstFault with
    | none => .ok ()
    | some f => .error (.invalid (f.complaint c)) := by
  unfold firstFault
  by_cases hT : 1 ≤ c.codes.ttlSecs ∧ c.codes.ttlSecs ≤ maxWholeSecs
  · by_cases hL : c.codes.codeLength = 0
    · -- The ttl passes and the code length is the first fault.
      have hmsg : CheckedSetting.codeLength.complaint c = "authorization_code.code_length must be positive" := by
        simp only [CheckedSetting.complaint, CheckedSetting.value, hL, if_true]
        rfl
      simp [validate, codes_ttl_eq, hT, hL, hmsg, bind, Except.bind, throw, throwThe,
        MonadExceptOf.throw]
    · by_cases hS : 1 ≤ c.tokens.sweepIntervalSecs ∧ c.tokens.sweepIntervalSecs ≤ maxWholeSecs
      · simp [validate, codes_ttl_eq, tokens_sweepInterval_eq, hT, hL, hS, bind, Except.bind,
          pure, Except.pure]
      · simp [validate, codes_ttl_eq, tokens_sweepInterval_eq, hT, hL, hS, bind, Except.bind]
  · simp [validate, codes_ttl_eq, hT, bind, Except.bind]

private theorem validate_eq_ok_iff : c.validate = .ok () ↔ c.firstFault = none := by
  rw [validate_eq]
  cases c.firstFault <;> simp

/-- No setting is at fault exactly when both durations lie between one second and the largest
number of seconds whose milliseconds fit a signed 64-bit word, and codes have a character. -/
private theorem firstFault_eq_none_iff : c.firstFault = none ↔
    (1 ≤ c.codes.ttlSecs ∧ c.codes.ttlSecs ≤ (2 ^ 63 - 1) / 1000) ∧ 1 ≤ c.codes.codeLength ∧
      (1 ≤ c.tokens.sweepIntervalSecs ∧ c.tokens.sweepIntervalSecs ≤ (2 ^ 63 - 1) / 1000) := by
  rw [← maxWholeSecs_eq]
  unfold firstFault
  by_cases hT : 1 ≤ c.codes.ttlSecs ∧ c.codes.ttlSecs ≤ maxWholeSecs
  · by_cases hL : c.codes.codeLength = 0
    · simp [hT, hL]
    · by_cases hS : 1 ≤ c.tokens.sweepIntervalSecs ∧ c.tokens.sweepIntervalSecs ≤ maxWholeSecs
      · simp [hT, hL, hS]
        omega
      · simp [hT, hL, hS]
  · simp [hT]

end AppConfig

namespace CodeCache

variable {α : Type} {settings : CodeSettings} (seed : Seed)

theorem ofSettings_of_inBounds (hT : 1 ≤ settings.ttlSecs ∧ settings.ttlSecs ≤ maxWholeSecs)
    (hL : settings.codeLength ≠ 0) :
    ∃ cache : CodeCache α, CodeCache.ofSettings settings seed = .ok cache ∧
      cache.ttl = settings.ttlSecs * 1000 ∧ cache.store.gate.interval = settings.ttlSecs * 1000 ∧
      cache.generator = .random settings.codeLength seed ∧
      cache.retries = settings.maxCollisionRetries := by
  have httl : settings.ttl = .ok (settings.ttlSecs * 1000) := by
    rw [CodeSettings.ttl, positiveSecs_eq, if_pos hT]
  have hgen : CodeGenerator.randomOfLength settings.codeLength seed =
      .ok (.random settings.codeLength seed) := by
    simp [CodeGenerator.randomOfLength, hL]
  have hpos : (0 : Int) < settings.ttlSecs * 1000 := by omega
  -- The ttl in milliseconds is positive, so the cache and its gate are made.
  let gate : SweepGate := ⟨settings.ttlSecs * 1000, 0, hpos⟩
  have hw : CodeCache.withTtl (settings.ttlSecs * 1000) (.random settings.codeLength seed) =
      (.ok { store := { name := CodeCache.name, gate },
             generator := .random settings.codeLength seed,
             ttl := settings.ttlSecs * 1000 } : Except AppError (CodeCache α)) := by
    have hnot : ¬ ((settings.ttlSecs : Int) * 1000 ≤ 0) := by omega
    simp [CodeCache.withTtl, Store.empty, SweepGate.create, gate, hpos, hnot, bind, Except.bind,
      pure, Except.pure, Except.map]
  refine ⟨{ store := { name := CodeCache.name, gate },
             generator := .random settings.codeLength seed,
             ttl := settings.ttlSecs * 1000,
             retries := settings.maxCollisionRetries }, ?_, rfl, rfl, rfl, rfl⟩
  simp [CodeCache.ofSettings, httl, hgen, hw, bind, Except.bind, pure, Except.pure]

private theorem ofSettings_of_ttl_error {e : ConfigError} (h : settings.ttl = .error e) :
    (CodeCache.ofSettings settings seed : Except AppError (CodeCache α)) =
      .error (.invalidArgument e.message) := by
  simp [CodeCache.ofSettings, h, bind, Except.bind, throw, throwThe, MonadExceptOf.throw]

private theorem ofSettings_of_length_zero {t : Int} (h : settings.ttl = .ok t)
    (hL : settings.codeLength = 0) :
    (CodeCache.ofSettings settings seed : Except AppError (CodeCache α)) =
      .error (.invalidArgument "Authorization code length must be positive") := by
  simp [CodeCache.ofSettings, h, CodeGenerator.randomOfLength, hL, bind, Except.bind, pure,
    Except.pure]

end CodeCache

namespace TokenCache

variable {α : Type} {settings : TokenSettings} (zones : ZoneResolver)

theorem ofSettings_of_inBounds
    (hS : 1 ≤ settings.sweepIntervalSecs ∧ settings.sweepIntervalSecs ≤ maxWholeSecs) :
    ∃ cache : TokenCache α, TokenCache.ofSettings settings zones = .ok cache ∧
      cache.store.gate.interval = settings.sweepIntervalSecs * 1000 := by
  have hint : settings.sweepInterval = .ok (settings.sweepIntervalSecs * 1000) := by
    rw [TokenSettings.sweepInterval, positiveSecs_eq, if_pos hS]
  have hpos : (0 : Int) < settings.sweepIntervalSecs * 1000 := by omega
  let gate : SweepGate := ⟨settings.sweepIntervalSecs * 1000, 0, hpos⟩
  refine ⟨{ store := { name := TokenCache.name, gate }, zones }, ?_, rfl⟩
  simp [TokenCache.ofSettings, hint, TokenCache.withInterval, Store.empty, SweepGate.create, gate,
    hpos, bind, Except.bind, pure, Except.pure, Except.map]

private theorem ofSettings_of_error {e : ConfigError} (h : settings.sweepInterval = .error e) :
    (TokenCache.ofSettings settings zones : Except AppError (TokenCache α)) =
      .error (.invalidArgument e.message) := by
  simp [TokenCache.ofSettings, h]

end TokenCache

namespace Stores

variable {α β : Type} {c : AppConfig} (zones : ZoneResolver) (seed : Seed)

private theorem build_of_firstFault {f : CheckedSetting} (h : c.firstFault = some f) :
    (Stores.build c zones seed : Except AppError (Stores α β)) =
      .error (.invalidArgument (f.buildComplaint c)) := by
  unfold AppConfig.firstFault at h
  by_cases hT : 1 ≤ c.codes.ttlSecs ∧ c.codes.ttlSecs ≤ maxWholeSecs
  · have httl : c.codes.ttl = .ok (c.codes.ttlSecs * 1000) := by
      rw [c.codes_ttl_eq, if_pos hT]
    by_cases hL : c.codes.codeLength = 0
    · -- The code length is the first fault; the code cache refuses it.
      simp [hT, hL] at h
      subst h
      have hc : (CodeCache.ofSettings c.codes seed : Except AppError (CodeCache α)) =
          .error (.invalidArgument "Authorization code length must be positive") :=
        CodeCache.ofSettings_of_length_zero seed httl hL
      simp [build, hc, bind, Except.bind, CheckedSetting.buildComplaint]
    · -- The code cache is made; the token cache refuses its sweep interval.
      obtain ⟨cache, hc, -⟩ :=
        (CodeCache.ofSettings_of_inBounds seed hT hL : ∃ cache : CodeCache α, _)
      by_cases hS : 1 ≤ c.tokens.sweepIntervalSecs ∧ c.tokens.sweepIntervalSecs ≤ maxWholeSecs
      · simp [hT, hL, hS] at h
      · simp [hT, hL, hS] at h
        subst h
        have hint : c.tokens.sweepInterval =
            .error (.invalid (CheckedSetting.tokenSweepInterval.complaint c)) := by
          rw [c.tokens_sweepInterval_eq, if_neg hS]
        have ht : (TokenCache.ofSettings c.tokens zones : Except AppError (TokenCache β)) =
            .error (.invalidArgument (ConfigError.invalid
              (CheckedSetting.tokenSweepInterval.complaint c)).message) :=
          TokenCache.ofSettings_of_error zones hint
        simp [build, hc, ht, bind, Except.bind, CheckedSetting.buildComplaint]
  · -- The code ttl is the first fault.
    simp [hT] at h
    subst h
    have httl : c.codes.ttl = .error (.invalid (CheckedSetting.codeTtl.complaint c)) := by
      rw [c.codes_ttl_eq, if_neg hT]
    have hc : (CodeCache.ofSettings c.codes seed : Except AppError (CodeCache α)) =
        .error (.invalidArgument (ConfigError.invalid (CheckedSetting.codeTtl.complaint c)).message) :=
      CodeCache.ofSettings_of_ttl_error seed httl
    simp [build, hc, bind, Except.bind, CheckedSetting.buildComplaint]

private theorem build_of_valid (h : c.firstFault = none) :
    ∃ s : Stores α β, Stores.build c zones seed = .ok s ∧
      s.codes.ttl = c.codes.ttlSecs * 1000 ∧ s.codes.store.gate.interval = c.codes.ttlSecs * 1000 ∧
      s.codes.generator = .random c.codes.codeLength seed ∧
      s.codes.retries = c.codes.maxCollisionRetries ∧
      s.tokens.store.gate.interval = c.tokens.sweepIntervalSecs * 1000 := by
  unfold AppConfig.firstFault at h
  -- Each of the three checks passes.
  have hT : 1 ≤ c.codes.ttlSecs ∧ c.codes.ttlSecs ≤ maxWholeSecs := by
    by_contra hT
    simp [hT] at h
  have hL : c.codes.codeLength ≠ 0 := by
    intro hL
    simp [hT, hL] at h
  have hS : 1 ≤ c.tokens.sweepIntervalSecs ∧ c.tokens.sweepIntervalSecs ≤ maxWholeSecs := by
    by_contra hS
    simp [hT, hL, hS] at h
  obtain ⟨codes, hc, httl, hgate, hgen, hret⟩ :=
    (CodeCache.ofSettings_of_inBounds seed hT hL : ∃ cache : CodeCache α, _)
  obtain ⟨tokens, ht, hint⟩ :=
    (TokenCache.ofSettings_of_inBounds zones hS : ∃ cache : TokenCache β, _)
  refine ⟨{ config := c, codes, tokens }, ?_, httl, hgate, hgen, hret, hint⟩
  simp [build, hc, ht, bind, Except.bind, pure, Except.pure]

end Stores

variable {α β : Type}

/-- Settings are checked alike by validation and by building the stores. For any settings, zone
resolver and seed, the stores can be built exactly when the settings are valid, and the settings
are valid exactly when the code ttl and the token sweep interval lie between one second and
`(2 ^ 63 - 1) / 1000` seconds and codes have at least one character. When a setting is at fault,
both report the first one in the order code ttl, code length, token sweep interval: validation
as an invalid setting, building as an invalid argument. Stores built from valid settings have the
code ttl and sweep interval at the ttl in milliseconds, random codes of the set length, the set
retry bound, and the token sweep interval in milliseconds. -/
theorem settings_checked_alike (c : AppConfig) (zones : ZoneResolver) (seed : Seed) :
    ((∃ s : Stores α β, Stores.build c zones seed = .ok s) ↔ c.validate = .ok ()) ∧
    (c.validate = .ok () ↔
      (1 ≤ c.codes.ttlSecs ∧ c.codes.ttlSecs ≤ (2 ^ 63 - 1) / 1000) ∧ 1 ≤ c.codes.codeLength ∧
        (1 ≤ c.tokens.sweepIntervalSecs ∧ c.tokens.sweepIntervalSecs ≤ (2 ^ 63 - 1) / 1000)) ∧
    (∀ f, c.firstFault = some f →
      c.validate = .error (.invalid (f.complaint c)) ∧
        (Stores.build c zones seed : Except AppError (Stores α β)) =
          .error (.invalidArgument (f.buildComplaint c))) ∧
    (c.validate = .ok () → ∃ s : Stores α β, Stores.build c zones seed = .ok s ∧
      s.codes.ttl = c.codes.ttlSecs * 1000 ∧ s.codes.store.gate.interval = c.codes.ttlSecs * 1000 ∧
      s.codes.generator = .random c.codes.codeLength seed ∧
      s.codes.retries = c.codes.maxCollisionRetries ∧
      s.tokens.store.gate.interval = c.tokens.sweepIntervalSecs * 1000) := by
  refine ⟨?_, c.validate_eq_ok_iff.trans c.firstFault_eq_none_iff, fun f hf => ⟨?_, ?_⟩,
    fun hv => Stores.build_of_valid zones seed (c.validate_eq_ok_iff.1 hv)⟩
  · rw [c.validate_eq_ok_iff]
    constructor
    · -- Built stores mean no setting was at fault.
      rintro ⟨s, hs⟩
      cases hf : c.firstFault with
      | none => rfl
      | some f =>
        rw [Stores.build_of_firstFault zones seed hf] at hs
        cases hs
    · intro h
      obtain ⟨s, hs, -⟩ := (Stores.build_of_valid zones seed h : ∃ s : Stores α β, _)
      exact ⟨s, hs⟩
  · rw [c.validate_eq, hf]
  · exact Stores.build_of_firstFault zones seed hf

end CredentialCache
