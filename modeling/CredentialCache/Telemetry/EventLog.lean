import CredentialCache.Event
import CredentialCache.Telemetry.Log
/-!
# Log records of events

The record an event is logged as, if any. Sweeps, issued codes and created tokens are logged at
debug level, a collision at warn level. Of the deletions, only tokens found expired when read and
revocations by zone or by origin are logged; plain redemptions, refusals of unknown codes and the
other deletions are counted but not logged.
-/

namespace CredentialCache

def storeTarget : String := "credstore_core::expiring_map"

def codeTarget : String := "credstore_core::authorization_code"

def tokenTarget : String := "credstore_core::revocable_token"

/-- The record an event is logged as, if it is logged. -/
def Event.logRecord? : Event → Option Record
  | .swept cache n =>
    some ⟨.debug, storeTarget, "Removed expired entries", [("cache", .text cache), ("removed", .int n)]⟩
  | .codeIssued client ttlSecs =>
    some ⟨.debug, codeTarget, "Issued authorization code",
      [("client_id", .shown client), ("ttl_secs", .int ttlSecs)]⟩
  | .codeCollided attempt =>
    some ⟨.warn, codeTarget, "Generated authorization code collided with a live code",
      [("attempt", .int attempt.toNat)]⟩
  | .codeRedeemed => none
  | .codeRejected .expired => some ⟨.debug, codeTarget, "[oauth_code] Found code, but it expired", []⟩
  | .codeRejected .notFound => none
  | .tokenCreated id zone kind =>
    some ⟨.debug, tokenTarget, "Created revocable token",
      [("token_id", .shown id), ("zone_id", .shown zone), ("token_type", .shown kind)]⟩
  | .tokensDeleted (.expired id) _ =>
    some ⟨.debug, tokenTarget, "Revocable token expired on read", [("token_id", .text id)]⟩
  | .tokensDeleted (.zone zone) n =>
    some ⟨.debug, tokenTarget, "Deleted revocable tokens by zone",
      [("zone_id", .shown zone), ("removed", .int n)]⟩
  | .tokensDeleted (.origin origin zone) n =>
    some ⟨.debug, tokenTarget, "Deleted revocable tokens by origin",
      [("origin", .text origin), ("zone_id", .shown zone), ("removed", .int n)]⟩
  | .tokensDeleted _ _ => none

def Event.logRecords (es : List Event) : List Record := es.filterMap Event.logRecord?

end CredentialCache
