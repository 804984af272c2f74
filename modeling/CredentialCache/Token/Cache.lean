import CredentialCache.Store.Basic
import CredentialCache.Token.Basic
import CredentialCache.Config.Basic
import CredentialCache.Text.Blank
/-!
# Revocable-token caches

A token cache keeps tokens by id until they expire. Storing a token stamps it with the current
zone. Reads by id honour expiry; queries list the live tokens of a user, a client or the current
zone; bulk revocation removes the live tokens of one zone that match a user, client or origin.
Only storing and checked reads run the throttled sweep.
-/

namespace CredentialCache

/-- A cache of revocable tokens: the store of tokens by id and the zone resolver. -/
structure TokenCache (α : Type) where
  store : Store (RevocableToken α)
  zones : ZoneResolver

namespace TokenCache

variable {α : Type}

def name : String := "revocable_token"

def defaultInterval : Int := 30000

def withInterval (interval : Int) (zones : ZoneResolver) : Except AppError (TokenCache α) := do
  pure { store := ← Store.empty name interval, zones }

def withDefaults (zones : ZoneResolver) : Except AppError (TokenCache α) := withInterval defaultInterval zones

def ofSettings (settings : TokenSettings) (zones : ZoneResolver) : Except AppError (TokenCache α) :=
  match settings.sweepInterval with
  | .ok i => withInterval i zones
  | .error e => .error (.invalidArgument e.message)

def lift {β : Type} (cache : TokenCache α) (r : Outcome (Store (RevocableToken α)) β) :
    Outcome (TokenCache α) β :=
  { answer := r.answer, state := { cache with store := r.state }, events := r.events }

def currentZone (cache : TokenCache α) (scopes : List ZoneId) : ZoneId := cache.zones.current scopes

def create (cache : TokenCache α) (c : Clock) (scopes : List ZoneId) (t : RevocableToken α) :
    Outcome (TokenCache α) (Except AppError (RevocableToken α)) :=
  let t' := { t with zone := cache.currentZone scopes }
  let r := cache.lift (cache.store.putUntil c t'.tokenId t' t'.expires)
  match r.answer with
  | .error e => { r with answer := .error e.toAppError }
  | .ok () =>
    { r with
      answer := .ok t'
      events := r.events ++ [.tokenCreated t'.tokenId t'.zone.name t'.kind.logName] }

/-- Store a token under an id, stamped with the id and the current zone. Updates are not counted
as creations. -/
def update (cache : TokenCache α) (c : Clock) (scopes : List ZoneId) (id : String) (t : RevocableToken α) :
    Outcome (TokenCache α) (Except AppError (RevocableToken α)) :=
  let t' := { t with tokenId := id, zone := cache.currentZone scopes }
  let r := cache.lift (cache.store.putUntil c id t' t'.expires)
  { r with answer := (r.answer.map fun _ => t').mapError InsertError.toAppError }

def notFound (id : String) : AppError := .notFound s!"Token not found '{id}'."

/-- Read a token by id. With `check` the read sweeps if due and an expired token is removed and
reported; without it the token is returned as stored, expired or not. -/
def retrieveChecked (cache : TokenCache α) (c : Clock) (id : String) (check : Bool) :
    Outcome (TokenCache α) (Except AppError (RevocableToken α)) :=
  if check then
    let r := cache.lift (cache.store.read c id)
    match r.answer with
    | .found t => { r with answer := .ok t }
    | .notFound => { r with answer := .error (notFound id) }
    | .expired =>
      { r with
        answer := .error (.notFound "Token expired.")
        events := r.events ++ [.tokensDeleted (.expired id) 1] }
  else
    { answer := match cache.store.find? id with
        | some e => .ok e.value
        | none => .error (notFound id),
      state := cache }

def retrieve (cache : TokenCache α) (c : Clock) (id : String) :
    Outcome (TokenCache α) (Except AppError (RevocableToken α)) :=
  cache.retrieveChecked c id true

/-- The live tokens that satisfy a test, in id order. -/
def liveTokens (cache : TokenCache α) (c : Clock) (p : RevocableToken α → Bool) : List (RevocableToken α) :=
  cache.store.collectLive c.now p

def retrieveAll (cache : TokenCache α) (c : Clock) (scopes : List ZoneId) : List (RevocableToken α) :=
  let z := cache.currentZone scopes
  cache.liveTokens c (·.zone == z)

def userTokens (cache : TokenCache α) (c : Clock) (user : String) : List (RevocableToken α) :=
  cache.liveTokens c (·.userId == user)

def clientTokens (cache : TokenCache α) (c : Clock) (client : String) : List (RevocableToken α) :=
  cache.liveTokens c (·.clientId == client)

/-- The live tokens of a user with a client; a blank client id is refused. -/
def userClientTokens (cache : TokenCache α) (c : Clock) (user client : String) :
    Except AppError (List (RevocableToken α)) :=
  if isBlank client then .error (.invalidArgument "Client ID can not be null when retrieving tokens.")
  else .ok (cache.liveTokens c fun t => t.userId == user && t.clientId == client)

def delete (cache : TokenCache α) (id : String) : Outcome (TokenCache α) (Option (RevocableToken α)) :=
  let (t, s) := cache.store.remove id
  { answer := t, state := { cache with store := s },
    events := if t.isSome then [.tokensDeleted .revoked 1] else [] }

/-- Delete the live tokens of a zone that pass a test; the answer is how many went. -/
def deleteLive (cache : TokenCache α) (c : Clock) (reason : DeleteReason) (zone : ZoneId)
    (p : RevocableToken α → Bool) : Outcome (TokenCache α) Nat :=
  let (n, s) := cache.store.removeLiveWhere c.now fun t => t.zone == zone && p t
  { answer := n, state := { cache with store := s }, events := [.tokensDeleted reason n] }

def deleteByZone (cache : TokenCache α) (c : Clock) (zone : ZoneId) : Outcome (TokenCache α) Nat :=
  cache.deleteLive c (.zone zone.name) zone fun _ => true

def deleteByOrigin (cache : TokenCache α) (c : Clock) (origin : String) (zone : ZoneId) :
    Outcome (TokenCache α) Nat :=
  cache.deleteLive c (.origin origin zone.name) zone (·.origin == some origin)

def deleteByUser (cache : TokenCache α) (c : Clock) (user : String) (zone : ZoneId) :
    Outcome (TokenCache α) Nat :=
  cache.deleteLive c (.user user zone.name) zone (·.userId == user)

def deleteByClient (cache : TokenCache α) (c : Clock) (client : String) (zone : ZoneId) :
    Outcome (TokenCache α) Nat :=
  cache.deleteLive c (.client client zone.name) zone (·.clientId == client)

def sweep (cache : TokenCache α) (c : Clock) : Outcome (TokenCache α) Nat :=
  cache.lift (cache.store.sweep c)

end TokenCache

end CredentialCache
