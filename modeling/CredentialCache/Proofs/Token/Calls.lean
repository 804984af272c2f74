import CredentialCache.Token.Cache
import CredentialCache.Proofs.Store.Frame
/-!
# Calls to a token cache

Every public operation of a token cache, as a call made at a clock from inside some zone scopes.
Each call acts on the cache's store as exactly one store call: a write stores the token, stamped
with the current zone, until its own expiry instant; a checked read is a non-consuming keyed read;
a revocation by id removes the entry; a bulk revocation removes the live entries of its zone that
pass its test; queries only list live entries; and a sweep sweeps. The zone resolver never
changes, so every fact about store calls carries over to token calls.
-/

namespace CredentialCache

inductive TokenCall (α : Type)
  | create (scopes : List ZoneId) (t : RevocableToken α)
  | update (scopes : List ZoneId) (id : String) (t : RevocableToken α)
  | retrieve (id : String)
  | retrieveChecked (id : String) (check : Bool)
  | retrieveAll (scopes : List ZoneId)
  | userTokens (user : String)
  | clientTokens (client : String)
  | userClientTokens (user client : String)
  | delete (id : String)
  | deleteByZone (zone : ZoneId)
  | deleteByOrigin (origin : String) (zone : ZoneId)
  | deleteByUser (user : String) (zone : ZoneId)
  | deleteByClient (client : String) (zone : ZoneId)
  | sweep

inductive TokenReply (α : Type)
  | token (r : Except AppError (RevocableToken α))
  | tokens (ts : List (RevocableToken α))
  | listed (r : Except AppError (List (RevocableToken α)))
  | deleted (t : Option (RevocableToken α))
  | count (n : Nat)
  | swept (n : Nat)

namespace TokenCall

variable {α : Type}

/-- The token a write stores, stamped with the current zone (and, for an update, its id). -/
def stamped (zones : ZoneResolver) : TokenCall α → Option (RevocableToken α)
  | .create scopes t => some { t with zone := zones.current scopes }
  | .update scopes id t => some { t with tokenId := id, zone := zones.current scopes }
  | _ => none

def onStore (zones : ZoneResolver) : TokenCall α → StoreCall (RevocableToken α)
  | .create scopes t =>
    let t' := { t with zone := zones.current scopes }
    .putUntil t'.tokenId t' t'.expires
  | .update scopes id t =>
    let t' := { t with tokenId := id, zone := zones.current scopes }
    .putUntil id t' t'.expires
  | .retrieve id => .lookup id false
  | .retrieveChecked id true => .lookup id false
  | .retrieveChecked id false => .get id
  | .retrieveAll scopes => .collectLive (·.zone == zones.current scopes)
  | .userTokens user => .collectLive (·.userId == user)
  | .clientTokens client => .collectLive (·.clientId == client)
  | .userClientTokens user client => .collectLive fun t => t.userId == user && t.clientId == client
  | .delete id => .remove id
  | .deleteByZone zone => .removeLiveWhere fun t => t.zone == zone && true
  | .deleteByOrigin origin zone => .removeLiveWhere fun t => t.zone == zone && t.origin == some origin
  | .deleteByUser user zone => .removeLiveWhere fun t => t.zone == zone && t.userId == user
  | .deleteByClient client zone => .removeLiveWhere fun t => t.zone == zone && t.clientId == client
  | .sweep => .sweep

end TokenCall

namespace TokenCache

variable {α : Type}

def perform (cache : TokenCache α) (c : Clock) : TokenCall α → Outcome (TokenCache α) (TokenReply α)
  | .create scopes t => (cache.create c scopes t).mapAnswer .token
  | .update scopes id t => (cache.update c scopes id t).mapAnswer .token
  | .retrieve id => (cache.retrieve c id).mapAnswer .token
  | .retrieveChecked id check => (cache.retrieveChecked c id check).mapAnswer .token
  | .retrieveAll scopes => { answer := .tokens (cache.retrieveAll c scopes), state := cache }
  | .userTokens user => { answer := .tokens (cache.userTokens c user), state := cache }
  | .clientTokens client => { answer := .tokens (cache.clientTokens c client), state := cache }
  | .userClientTokens user client =>
    { answer := .listed (cache.userClientTokens c user client), state := cache }
  | .delete id => (cache.delete id).mapAnswer .deleted
  | .deleteByZone zone => (cache.deleteByZone c zone).mapAnswer .count
  | .deleteByOrigin origin zone => (cache.deleteByOrigin c origin zone).mapAnswer .count
  | .deleteByUser user zone => (cache.deleteByUser c user zone).mapAnswer .count
  | .deleteByClient client zone => (cache.deleteByClient c client zone).mapAnswer .count
  | .sweep => (cache.sweep c).mapAnswer .swept

def step (cache : TokenCache α) (call : Clock × TokenCall α) : Outcome (TokenCache α) (TokenReply α) :=
  cache.perform call.1 call.2

theorem create_state (cache : TokenCache α) (c : Clock) (scopes : List ZoneId) (t : RevocableToken α) :
    (cache.create c scopes t).state =
      { cache with store := (cache.store.putUntil c t.tokenId { t with zone := cache.currentZone scopes }
        t.expires).state } := by
  unfold create
  dsimp only
  split <;> rfl

private theorem retrieveChecked_state (cache : TokenCache α) (c : Clock) (id : String) (check : Bool) :
    (cache.retrieveChecked c id check).state =
      if check then { cache with store := (cache.store.read c id).state } else cache := by
  unfold retrieveChecked
  cases check
  · rfl
  · simp only [if_true]
    split <;> rfl

/-- A token call acts on the cache's store exactly as the store call it makes, and leaves the
zone resolver alone. -/
private theorem perform_state (cache : TokenCache α) (c : Clock) (call : TokenCall α) :
    (cache.perform c call).state =
      { cache with store := (cache.store.perform c (call.onStore cache.zones)).state } := by
  cases call with
  | create scopes t => exact create_state cache c scopes t
  | retrieve id => exact retrieveChecked_state cache c id true
  | retrieveChecked id check =>
    rw [perform, Outcome.state_mapAnswer, retrieveChecked_state]
    cases check <;> rfl
  | _ => rfl

theorem perform_store (cache : TokenCache α) (c : Clock) (call : TokenCall α) :
    (cache.perform c call).state.store = (cache.store.perform c (call.onStore cache.zones)).state := by
  rw [perform_state]

private theorem perform_zones (cache : TokenCache α) (c : Clock) (call : TokenCall α) :
    (cache.perform c call).state.zones = cache.zones := by
  rw [perform_state]

theorem final_store (P : Store (RevocableToken α) → Prop) (zones : ZoneResolver)
    (hP : ∀ c s (call : TokenCall α), P s → P (s.perform c (call.onStore zones)).state)
    {cache : TokenCache α} (hz : cache.zones = zones) (h : P cache.store)
    (calls : List (Clock × TokenCall α)) : P (Run.final step cache calls).store := by
  induction calls generalizing cache with
  | nil => exact h
  | cons x calls ih =>
    refine ih ((perform_zones cache x.1 x.2).trans hz) ?_
    rw [step, perform_store, hz]
    exact hP x.1 _ x.2 h

end TokenCache

end CredentialCache
