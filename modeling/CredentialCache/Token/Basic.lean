import CredentialCache.Time.Instant
import CredentialCache.Zone
/-!
# Revocable tokens

A revocable token is an access or refresh token kept by id so that it can be revoked before it
expires. It belongs to the zone that was current when it was stored, names its user, client and
identity provider (origin), and expires at its own expiry instant, the instant itself included.
-/

namespace CredentialCache

inductive TokenKind
  | access
  | refresh
deriving DecidableEq, Repr

namespace TokenKind

def wireName : TokenKind → String
  | access => "access_token"
  | refresh => "refresh_token"

def ofWireName? : String → Option TokenKind
  | "access_token" => some access
  | "refresh_token" => some refresh
  | _ => none

def logName : TokenKind → String
  | access => "AccessToken"
  | refresh => "RefreshToken"

end TokenKind

/-- How the token's value is written: a self-contained JWT, or a reference to stored data. -/
inductive TokenFormat
  | jwt
  | reference
deriving DecidableEq, Repr

namespace TokenFormat

def wireName : TokenFormat → String
  | jwt => "jwt"
  | reference => "opaque"

def ofWireName? : String → Option TokenFormat
  | "jwt" => some jwt
  | "opaque" => some reference
  | _ => none

end TokenFormat

/-- A token that can be revoked, carrying a value of type `α`. -/
structure RevocableToken (α : Type) where
  tokenId : String
  userId : String
  clientId : String
  zone : ZoneId := ZoneId.default
  origin : Option String := none
  kind : TokenKind
  format : TokenFormat := .jwt
  scope : List String := []
  issued : Instant
  expires : Instant
  value : α
deriving DecidableEq, Repr

namespace RevocableToken

variable {α : Type}

def isExpiredAt (t : RevocableToken α) (now : Instant) : Bool := decide (t.expires ≤ now)

def isRefresh (t : RevocableToken α) : Bool := t.kind == .refresh

end RevocableToken

end CredentialCache
