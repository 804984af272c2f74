import CredentialCache.Stores
import CredentialCache.Config.Load
import CredentialCache.Config.EnvFile
import CredentialCache.Telemetry.Counters
import CredentialCache.Telemetry.Logger
import CredentialCache.Time.Calendar
import CredentialCache.Uuid
/-!
# The demonstration program

The program reads its settings, sets up logging, builds the stores and walks through one round of
their use: it issues a code and redeems it, fails to redeem it a second time, creates a refresh
token in zone `demo`, reads it back, lists the tokens of its user and client, and revokes the
zone. Every step is logged, and the counters are logged at the end.

A run is a function of what the program is started with: its files, its environment, the time of
the system clock (which stands still during the run) and a random seed. It ends with an exit code
and the texts written to standard output and standard error. A failure ends the run with code 1
and the message `Error: …` on standard error, followed by the chain of causes.
-/

namespace CredentialCache

structure AuthRequest where
  userId : String
  clientId : String
  redirectUri : String
deriving DecidableEq, Repr

def AuthRequest.grant (r : AuthRequest) : Grant AuthRequest := ⟨some r.userId, r.clientId, r⟩

namespace Demo

/-- What the program is started with. -/
structure Invocation where
  files : List (String × String)
  env : List (String × String)
  now : Instant
  seed : Seed

structure Termination where
  exitCode : Nat
  stdout : String
  stderr : String
deriving DecidableEq, Repr

def envFileName : String := ".env"

/-- The directory the settings are read from: `CONFIG_DIR` as the program was started, else
`config`. -/
def configDir (env : List (String × String)) : String := (env.lookup "CONFIG_DIR").getD "config"

def startEnvironment (env : List (String × String)) (envFile : Option String) : List (String × String) :=
  match envFile with
  | some text => EnvFile.apply env text
  | none => env

def readsFiles (env : List (String × String)) (envFile : Option String) : List String :=
  AppConfig.sourceFiles (configDir env) (startEnvironment env envFile)

def indent (s : String) : String := "\n".intercalate ((s.splitOn "\n").map ("    " ++ ·))

/-- Text under a number right-aligned in five columns, later lines indented seven columns. -/
def numbered (n : Nat) (s : String) : String :=
  let head := "".pushn ' ' (5 - (toString n).length) ++ toString n ++ ": "
  match s.splitOn "\n" with
  | [] => head
  | l :: ls => "\n".intercalate ((head ++ l) :: ls.map ("       " ++ ·))

/-- The report of a failure: the message, then its causes, numbered if there are several. -/
def failureText (message : String) (causes : List String) : String :=
  let chain := match causes with
    | [] => ""
    | [c] => "\n\nCaused by:\n" ++ indent c
    | cs => "\n\nCaused by:" ++ String.join ((cs.zipIdx).map fun (c, i) => "\n" ++ numbered i c)
  "Error: " ++ message ++ chain ++ "\n"

def ConfigError.causes : ConfigError → List String
  | .load t => [t]
  | .invalid _ => []

def appTarget : String := "credstore"

def starterTarget : String := "credstore_bootstrap::starter"

def buildTarget : String := "credstore_bootstrap::infrastructure"

def runtimeRecord (c : AppConfig) : Record :=
  ⟨.info, "credstore_bootstrap::runtime", "Runtime initialized",
    [("app_name", .shown c.appName), ("app_env", .shown c.appEnv), ("code_ttl_secs", .int c.codes.ttlSecs),
     ("token_sweep_interval_secs", .int c.tokens.sweepIntervalSecs)]⟩

def builtRecords (c : AppConfig) : List Record :=
  [⟨.info, buildTarget, "Authorization code cache created",
    [("ttl_secs", .int c.codes.ttlSecs), ("code_length", .int c.codes.codeLength)]⟩,
   ⟨.info, buildTarget, "Revocable token cache created",
    [("sweep_interval_secs", .int c.tokens.sweepIntervalSecs)]⟩]

structure Session where
  stores : Stores AuthRequest String
  counters : Counters
  logger : Logger

def Session.note (s : Session) (es : List Event) : Session :=
  { s with counters := s.counters.recordAll es, logger := s.logger.logEvents es }

abbrev Walk := ExceptT AppError (StateM Session)

def onStores {γ : Type} (f : Stores AuthRequest String → Outcome (Stores AuthRequest String) γ) : Walk γ := do
  let s ← get
  let r := f s.stores
  set ({ s with stores := r.state }.note r.events)
  pure r.answer

def orFail {γ : Type} : Except AppError γ → Walk γ
  | .ok a => pure a
  | .error e => throw e

def say (r : Record) : Walk Unit := modify fun s => { s with logger := s.logger.log r }

def tokenLifetime : Int := 30 * 86400000

/-- The round of use, at a clock that stands still, with the id of the token to create. -/
def walk (clock : Clock) (tokenId : String) : Walk Unit := do
  let request : AuthRequest := ⟨"marissa", "app", "http://localhost:8080/callback"⟩
  let code ← orFail (← onStores (·.issueCode clock request.grant))
  say ⟨.info, appTarget, "Issued authorization code", [("code_length", .int code.length)]⟩
  let redeemed := (← orFail (← onStores (·.redeemCode clock code))).details
  say ⟨.info, appTarget, "Redeemed authorization code",
    [("user_id", .shown redeemed.userId), ("redirect_uri", .shown redeemed.redirectUri)]⟩
  match ← onStores (·.redeemCode clock code) with
  | .error e => say ⟨.warn, appTarget, "Second redemption rejected", [("error", .shown e.message)]⟩
  | .ok _ => pure ()
  let now := clock.now
  let expires ← orFail (match now.addMs? tokenLifetime with
    | some t => .ok t
    | none => .error (.internal "token expiry out of range"))
  let token : RevocableToken String :=
    { tokenId, userId := redeemed.userId, clientId := redeemed.clientId, kind := .refresh,
      scope := ["openid", "profile"], issued := now, expires, value := "opaque-refresh-token" }
  let zone : ZoneId := ⟨"demo"⟩
  let created ← orFail (← onStores (·.createToken clock [zone] token))
  let found ← orFail (← onStores (·.retrieveToken clock created.tokenId))
  say ⟨.info, appTarget, "Retrieved token", [("token_id", .shown found.tokenId), ("zone_id", .shown found.zone.name)]⟩
  let listed ← orFail ((← get).stores.tokens.userClientTokens clock "marissa" "app")
  say ⟨.info, appTarget, "Tokens for user and client", [("count", .int listed.length)]⟩
  let removed ← onStores (·.revokeZone clock zone)
  say ⟨.info, appTarget, "Revoked tokens in zone", [("removed", .int removed), ("zone_id", .shown zone.name)]⟩

/-- Run the program. -/
def run (inv : Invocation) : Termination :=
  let env := startEnvironment inv.env (inv.files.lookup envFileName)
  match AppConfig.load (configDir inv.env) (AppConfig.fileAt inv.files) env with
  | .error e => ⟨1, "", failureText e.message (ConfigError.causes e)⟩
  | .ok config =>
    let (filter, ignored) := chooseFilter config.telemetry.logLevel env
    let warnings := String.join (ignored.map fun (d, e) => ignoredDirective d e)
    let format := if config.isProduction || config.telemetry.json then LogFormat.json else .text
    let logger := (Logger.log ⟨format, filter, inv.now.rfc3339, []⟩ (runtimeRecord config)).log
      ⟨.info, starterTarget, "Starting " ++ config.appName, []⟩
    match (Stores.standard config inv.seed : Except AppError (Stores AuthRequest String)) with
    | .error e => ⟨1, logger.text, warnings ++ failureText e.message []⟩
    | .ok stores =>
      let logger := (builtRecords config).foldl Logger.log logger
      let tokenId := (Uuid.random ⟨inv.seed.next.1⟩).1.toText
      let (result, s) := ((walk (Clock.at_ inv.now) tokenId).run).run ⟨stores, Counters.empty, logger⟩
      match result with
      | .error e => ⟨1, s.logger.text, warnings ++ failureText e.message []⟩
      | .ok () =>
        let logger := (s.logger.log ⟨.debug, starterTarget, "Metrics snapshot",
          [("metrics", .shown s.counters.render)]⟩).log ⟨.info, starterTarget, "Finished", []⟩
        ⟨0, logger.text, warnings⟩

end Demo

end CredentialCache
