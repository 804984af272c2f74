/-!
# Zones

A zone names a tenant; "uaa" is the default zone. A resolver says which zone is current: either a
fixed zone, or the innermost of the zone scopes the caller runs in, falling back to a given zone
outside every scope.
-/

namespace CredentialCache

structure ZoneId where
  name : String
deriving DecidableEq, Repr

namespace ZoneId

def default : ZoneId := ⟨"uaa"⟩

def isDefault (z : ZoneId) : Bool := z.name == "uaa"

end ZoneId

/-- How the current zone is found. -/
inductive ZoneResolver
  | fixed (zone : ZoneId)
  | scoped (fallback : ZoneId)
deriving DecidableEq, Repr

namespace ZoneResolver

def standard : ZoneResolver := .scoped ZoneId.default

/-- The current zone for a caller inside the given scopes, listed outermost first. -/
def current (r : ZoneResolver) (scopes : List ZoneId) : ZoneId :=
  match r with
  | .fixed z => z
  | .scoped fallback => scopes.getLast?.getD fallback

end ZoneResolver

end CredentialCache
