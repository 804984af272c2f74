import CredentialCache.Time.Instant
/-!
# Entries and lookups

An entry is a value stored under a key with the instant it was stored and the instant it
expires. It counts as expired from its expiry instant on, the instant itself included. A lookup
tells a live value apart from a key that was never there and from one whose entry had expired.
-/

namespace CredentialCache

/-- A stored value with its key, storage instant and expiry instant. -/
structure Entry (α : Type) where
  key : String
  value : α
  created : Instant
  expires : Instant
deriving DecidableEq, Repr

namespace Entry

variable {α : Type}

/-- Whether the entry has expired at `now`: its expiry instant is not after `now`. -/
def isExpiredAt (e : Entry α) (now : Instant) : Bool := decide (e.expires ≤ now)

def isLiveAt (e : Entry α) (now : Instant) : Bool := !e.isExpiredAt now

def remainingMs (e : Entry α) (now : Instant) : Int := max (e.expires.ms - now.ms) 0

@[simp] theorem isExpiredAt_eq_true {e : Entry α} {now : Instant} :
    e.isExpiredAt now = true ↔ e.expires.ms ≤ now.ms := by
  simp [isExpiredAt]

@[simp] theorem isLiveAt_eq_true {e : Entry α} {now : Instant} :
    e.isLiveAt now = true ↔ now.ms < e.expires.ms := by
  simp [isLiveAt, isExpiredAt]

end Entry

inductive Lookup (α : Type)
  | found (value : α)
  | notFound
  | expired
deriving DecidableEq, Repr

namespace Lookup

variable {α : Type}

def isFound : Lookup α → Bool
  | found _ => true
  | _ => false

def found? : Lookup α → Option α
  | found v => some v
  | _ => none

end Lookup

end CredentialCache
