import CredentialCache.Store.Basic
import CredentialCache.Code.Generator
import CredentialCache.Config.Basic
/-!
# Authorization codes

A code cache issues one-time codes for a grant and redeems each at most once. Issuing draws a
candidate from the generator and stores it only if no live code holds it; a candidate that
collides is replaced by the next one, up to the retry bound. Redeeming removes the code whatever
its state, and hands back the grant only if the code was still live. Codes live for the cache's
ttl, which is also its sweep interval.
-/

namespace CredentialCache

/-- What a code is issued for: the user (if any), the client, and further details. -/
structure Grant (α : Type) where
  user : Option String
  client : String
  details : α
deriving DecidableEq, Repr

/-- A stored code: the code itself, the grant's user and client, and the grant. -/
structure IssuedCode (α : Type) where
  code : String
  user : Option String
  client : String
  grant : Grant α
deriving DecidableEq, Repr

structure CodeCache (α : Type) where
  store : Store (IssuedCode α)
  generator : CodeGenerator
  /-- Milliseconds a code lives. -/
  ttl : Int
  retries : Nat := 0

namespace CodeCache

variable {α : Type}

def name : String := "authorization_code"

def defaultTtl : Int := 300000

def withTtl (ttl : Int) (generator : CodeGenerator) : Except AppError (CodeCache α) :=
  if ttl ≤ 0 then .error (.invalidArgument s!"Authorization code ttl must be positive, got {ttl}ms")
  else do
    let store ← Store.empty name ttl
    pure { store, generator, ttl }

def withDefaults (seed : Seed) : Except AppError (CodeCache α) :=
  withTtl defaultTtl (.random CodeGenerator.defaultLength seed)

def ofSettings (settings : CodeSettings) (seed : Seed) : Except AppError (CodeCache α) := do
  let ttl ← match settings.ttl with
    | .ok t => pure t
    | .error e => throw (.invalidArgument e.message)
  let generator ← CodeGenerator.randomOfLength settings.codeLength seed
  let cache ← withTtl ttl generator
  pure { cache with retries := settings.maxCollisionRetries }

def IssuedCode.ofGrant (code : String) (g : Grant α) : IssuedCode α := ⟨code, g.user, g.client, g⟩

def IssuedCode.withCode (v : IssuedCode α) (code : String) : IssuedCode α := { v with code }

@[simp] theorem IssuedCode.ofGrant_withCode (x code : String) (g : Grant α) :
    IssuedCode.withCode (IssuedCode.ofGrant x g) code = IssuedCode.ofGrant code g := rfl

/-- Issue attempts, `left` of them still allowed. `attempt` numbers this one from zero as a 32-bit
word, so the collision it reports as `attempt + 1` wraps past the last word. `pending` is the
record to store under the code drawn; a collision hands it back for the next attempt. -/
def issueAttempts (c : Clock) (g : Grant α) (ttl : Int) (attempt : UInt32) (pending : IssuedCode α) :
    Nat → CodeCache α → Outcome (CodeCache α) (Except AppError String)
  | 0, cache =>
    { answer := .error (.illegalState "Unable to generate a unique authorization code")
      state := cache }
  | left + 1, cache =>
    match cache.generator.generate with
    | (.error e, gen) => { answer := .error e, state := { cache with generator := gen } }
    | (.ok code, gen) =>
      let r := cache.store.putIfAbsent c code (IssuedCode.withCode pending code) ttl
      let cache' := { cache with store := r.state, generator := gen }
      match r.answer with
      | .error e => { answer := .error e.toAppError, state := cache', events := r.events }
      | .ok none =>
        { answer := .ok code, state := cache',
          events := r.events ++ [.codeIssued g.client (ttl.tdiv 1000)] }
      | .ok (some rejected) =>
        let rest := issueAttempts c g ttl (attempt + 1) rejected left cache'
        { rest with events := r.events ++ .codeCollided (attempt + 1) :: rest.events }

/-- Issue a code for a grant that lives `ttl` milliseconds, starting from its record under no code. -/
def issueWithTtl (cache : CodeCache α) (c : Clock) (g : Grant α) (ttl : Int) :
    Outcome (CodeCache α) (Except AppError String) :=
  issueAttempts c g ttl 0 (IssuedCode.ofGrant "" g) (cache.retries + 1) cache

def issue (cache : CodeCache α) (c : Clock) (g : Grant α) : Outcome (CodeCache α) (Except AppError String) :=
  cache.issueWithTtl c g cache.ttl

/-- Redeem a code: it is removed in any case, and its grant handed back only if it was live. -/
def redeem (cache : CodeCache α) (c : Clock) (code : String) : Outcome (CodeCache α) (Except AppError (Grant α)) :=
  let r := cache.store.take c code
  let cache' := { cache with store := r.state }
  match r.answer with
  | .found v => { answer := .ok v.grant, state := cache', events := r.events ++ [.codeRedeemed] }
  | .expired =>
    { answer := .error (.invalidGrant s!"Authorization code expired: {code}"), state := cache',
      events := r.events ++ [.codeRejected .expired] }
  | .notFound =>
    { answer := .error (.invalidGrant s!"Invalid authorization code: {code}"), state := cache',
      events := r.events ++ [.codeRejected .notFound] }

def sweep (cache : CodeCache α) (c : Clock) : Outcome (CodeCache α) Nat :=
  let r := cache.store.sweep c
  { answer := r.answer, state := { cache with store := r.state }, events := r.events }

end CodeCache

end CredentialCache
