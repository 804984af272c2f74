/-!
# Application settings

The settings of the application: its name and environment, the code cache (ttl in seconds, code
length, collision retries), the token cache (sweep interval in seconds) and telemetry (log level,
JSON output). Durations are given in whole seconds and must be positive and small enough that
their milliseconds fit a signed 64-bit word. Validation checks the code ttl, then the code
length, then the token sweep interval, and reports the first fault.
-/

namespace CredentialCache

structure CodeSettings where
  ttlSecs : Nat := 300
  codeLength : Nat := 10
  maxCollisionRetries : Nat := 3
deriving DecidableEq, Repr

structure TokenSettings where
  sweepIntervalSecs : Nat := 30
deriving DecidableEq, Repr

structure TelemetrySettings where
  logLevel : String := "info"
  json : Bool := false
deriving DecidableEq, Repr

structure AppConfig where
  appName : String := "credstore"
  appEnv : String := "development"
  codes : CodeSettings := {}
  tokens : TokenSettings := {}
  telemetry : TelemetrySettings := {}
deriving DecidableEq, Repr

/-- Why settings could not be had: the sources could not be read into settings, or the settings
read are not valid. Each carries its text. -/
inductive ConfigError
  | load (text : String)
  | invalid (text : String)
deriving DecidableEq, Repr

def ConfigError.message : ConfigError → String
  | .load t => "Failed to load config: " ++ t
  | .invalid t => "Invalid config: " ++ t

/-- The largest number of seconds whose milliseconds fit a signed 64-bit word. -/
def maxWholeSecs : Nat := 9223372036854775

def positiveSecs (setting : String) (secs : Nat) : Except ConfigError Int :=
  if secs = 0 then .error (.invalid s!"{setting} must be positive")
  else if secs ≤ maxWholeSecs then .ok (secs * 1000)
  else .error (.invalid s!"{setting} is out of range: {secs}")

def CodeSettings.ttl (c : CodeSettings) : Except ConfigError Int :=
  positiveSecs "authorization_code.ttl_secs" c.ttlSecs

def CodeSettings.sweepInterval (c : CodeSettings) : Except ConfigError Int := c.ttl

def TokenSettings.sweepInterval (t : TokenSettings) : Except ConfigError Int :=
  positiveSecs "revocable_token.sweep_interval_secs" t.sweepIntervalSecs

namespace AppConfig

/-- Check the code ttl, then the code length, then the token sweep interval. -/
def validate (c : AppConfig) : Except ConfigError Unit := do
  let _ ← c.codes.ttl
  if c.codes.codeLength = 0 then
    throw (.invalid "authorization_code.code_length must be positive")
  let _ ← c.tokens.sweepInterval
  pure ()

def isProduction (c : AppConfig) : Bool := c.appEnv == "production"

def isDevelopment (c : AppConfig) : Bool := c.appEnv == "development"

end AppConfig

end CredentialCache
