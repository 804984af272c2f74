import CredentialCache.Code.Cache
import CredentialCache.Token.Cache
/-!
# Credential stores

The stores of an application: a code cache and a token cache built from one configuration and
sharing one clock. The code cache is built first, from the code settings, with random codes; then
the token cache, from the token settings, with the given zone resolver. The first setting that
cannot be used stops the building, so the stores exist exactly when the configuration is valid.
-/

namespace CredentialCache

/-- A code cache and a token cache built from one configuration. -/
structure Stores (α β : Type) where
  config : AppConfig
  codes : CodeCache α
  tokens : TokenCache β

namespace Stores

variable {α β : Type}

/-- Build the stores from a configuration: the code cache, then the token cache. -/
def build (config : AppConfig) (zones : ZoneResolver) (seed : Seed) : Except AppError (Stores α β) := do
  let codes ← CodeCache.ofSettings config.codes seed
  let tokens ← TokenCache.ofSettings config.tokens zones
  pure { config, codes, tokens }

def standard (config : AppConfig) (seed : Seed) : Except AppError (Stores α β) :=
  build config ZoneResolver.standard seed

def onCodes {γ : Type} (s : Stores α β) (f : CodeCache α → Outcome (CodeCache α) γ) :
    Outcome (Stores α β) γ :=
  let r := f s.codes
  { answer := r.answer, state := { s with codes := r.state }, events := r.events }

def onTokens {γ : Type} (s : Stores α β) (f : TokenCache β → Outcome (TokenCache β) γ) :
    Outcome (Stores α β) γ :=
  let r := f s.tokens
  { answer := r.answer, state := { s with tokens := r.state }, events := r.events }

def issueCode (s : Stores α β) (c : Clock) (g : Grant α) : Outcome (Stores α β) (Except AppError String) :=
  s.onCodes (·.issue c g)

def redeemCode (s : Stores α β) (c : Clock) (code : String) :
    Outcome (Stores α β) (Except AppError (Grant α)) :=
  s.onCodes (·.redeem c code)

def createToken (s : Stores α β) (c : Clock) (scopes : List ZoneId) (t : RevocableToken β) :
    Outcome (Stores α β) (Except AppError (RevocableToken β)) :=
  s.onTokens (·.create c scopes t)

def retrieveToken (s : Stores α β) (c : Clock) (id : String) :
    Outcome (Stores α β) (Except AppError (RevocableToken β)) :=
  s.onTokens (·.retrieve c id)

def revokeZone (s : Stores α β) (c : Clock) (zone : ZoneId) : Outcome (Stores α β) Nat :=
  s.onTokens (·.deleteByZone c zone)

end Stores

end CredentialCache
