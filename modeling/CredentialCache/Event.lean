/-!
# Events

Operations report what they did as events, oldest first: a sweep and how much it removed, an
issued or rejected code, a created or deleted token. Counters and log lines are both read off the
events, so they agree with the operations by construction.
-/

namespace CredentialCache

inductive RejectReason
  | expired
  | notFound
deriving DecidableEq, Repr

def RejectReason.label : RejectReason → String
  | .expired => "expired"
  | .notFound => "not_found"

/-- Why tokens left the cache, with what the deletion was asked for. -/
inductive DeleteReason
  | revoked
  | expired (tokenId : String)
  | zone (zone : String)
  | origin (origin zone : String)
  | user (user zone : String)
  | client (client zone : String)
deriving DecidableEq, Repr

def DeleteReason.label : DeleteReason → String
  | .revoked => "revoked"
  | .expired _ => "expired"
  | .zone _ => "zone"
  | .origin _ _ => "origin"
  | .user _ _ => "user"
  | .client _ _ => "client"

/-- Something an operation did that counters or logs take note of. -/
inductive Event
  | swept (cache : String) (removed : Nat)
  | codeIssued (client : String) (ttlSecs : Int)
  /-- The given attempt (counted from one, as a 32-bit word) produced a code that is still live. -/
  | codeCollided (attempt : UInt32)
  | codeRedeemed
  | codeRejected (reason : RejectReason)
  | tokenCreated (tokenId zone kind : String)
  | tokensDeleted (reason : DeleteReason) (count : Nat)
deriving DecidableEq, Repr

end CredentialCache
