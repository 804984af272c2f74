import CredentialCache.Proofs.Telemetry.Tally
import CredentialCache.Proofs.Store.Staleness
import CredentialCache.Proofs.Token.Calls
/-!
# What each call reports

A store call reports its sweep, if it sweeps, with the number of entries the sweep removed, and
nothing else. A code-cache call reports the sweep of its first store call; then an issue reports a
warning per collision and the code it answered, if any, and a redeem its verdict: redeemed,
expired or not found. The later conditional writes of an issue come at the reading that the gate
has just refused or taken, so they never sweep: a code-cache call sweeps at most once. A token-cache
call reports the sweep of its one store call, then a created token, a token that a checked read
found expired, a revocation that found its token, or a bulk revocation with its count.

Counters weigh these reports, so what a call adds to each series is read off what the call
answered and what it found, and off whether it swept.
-/

namespace CredentialCache

namespace Store

variable {α : Type}

def sweptBy (s : Store α) (c : Clock) (call : StoreCall α) : Nat :=
  if s.runsSweep c call then (s.sweepAt c.now).answer else 0

private theorem events_maybeSweep (s : Store α) (c : Clock) :
    (s.maybeSweep c).events =
      if (s.gate.tryAcquire c.reading).isSome then [.swept s.name (s.sweepAt c.now).answer]
      else [] := by
  unfold maybeSweep
  cases s.gate.tryAcquire c.reading <;> rfl

private theorem events_perform (s : Store α) (c : Clock) (call : StoreCall α) :
    (s.perform c call).events =
      if s.runsSweep c call then [.swept s.name (s.sweepAt c.now).answer] else [] := by
  cases call with
  | put k v ttl | putUntil k v e | putIfAbsent k v ttl | take k | maybeSweep =>
    exact events_maybeSweep s c
  | lookup k consume => cases consume <;> exact events_maybeSweep s c
  | _ => rfl

private theorem name_maybeSweep (s : Store α) (c : Clock) : (s.maybeSweep c).state.name = s.name := by
  unfold maybeSweep
  split <;> rfl

theorem name_perform (s : Store α) (c : Clock) (call : StoreCall α) :
    (s.perform c call).state.name = s.name := by
  have hms := name_maybeSweep s c
  cases call with
  | put k v ttl =>
    simp only [perform, Outcome.state_mapAnswer, put_state]
    split <;> exact hms
  | putUntil k v e =>
    simp only [perform, Outcome.state_mapAnswer, putUntil_state]
    split <;> exact hms
  | putIfAbsent k v ttl =>
    simp only [perform, Outcome.state_mapAnswer]
    rcases putIfAbsent_cases s c k v ttl with ⟨-, -, hs⟩ | ⟨-, -, hs⟩ | ⟨exp, -, -, -, -, hs⟩ <;>
      rw [hs] <;> exact hms
  | take k =>
    simp only [perform, Outcome.state_mapAnswer, take_state]
    split <;> exact hms
  | lookup k consume =>
    cases consume
    · simp only [perform, Outcome.state_mapAnswer, lookup, Bool.false_eq_true, ↓reduceIte,
        read_state]
      split
      · split <;> exact hms
      · exact hms
    · simp only [perform, Outcome.state_mapAnswer, lookup, ↓reduceIte, take_state]
      split <;> exact hms
  | maybeSweep => exact hms
  | _ => rfl

theorem gain_perform (x : Series) (s : Store α) (c : Clock) (call : StoreCall α) :
    Event.gain x (s.perform c call).events =
      if s.runsSweep c call then (Event.swept s.name (s.sweepAt c.now).answer).weight x else 0 := by
  rw [events_perform]
  split <;> simp

theorem sweeps_accounted (s : Store α) (c : Clock) (call : StoreCall α) :
    Event.gain (.sweeps s.name) (s.perform c call).events + s.sweeps = (s.perform c call).state.sweeps := by
  rw [events_perform, sweeps_perform]
  split <;> simp [Event.weight, Series.sweeps, Series.sweptEntries, Nat.add_comm]

end Store

namespace CodeReply

variable {α : Type}

def isIssued : CodeReply α → Bool
  | .issued (.ok _) => true
  | _ => false

def isRedeemed : CodeReply α → Bool
  | .redeemed (.ok _) => true
  | _ => false

end CodeReply

namespace CodeCache

variable {α : Type} {c : Clock}

/-- Whether a call sweeps the store: an explicit sweep, or a call that consults the gate when the
gate admits the clock's reading. -/
def runsSweep (cache : CodeCache α) (c : Clock) (call : CodeCall α) : Bool :=
  (call matches .sweep) || (cache.consultsGate call && (cache.store.gate.tryAcquire c.reading).isSome)

def sweptBy (cache : CodeCache α) (c : Clock) (call : CodeCall α) : Nat :=
  if cache.runsSweep c call then (cache.store.sweepAt c.now).answer else 0

def rejects (cache : CodeCache α) (c : Clock) (r : RejectReason) : CodeCall α → Bool
  | .redeem code =>
    match r, (cache.store.take c code).answer with
    | .expired, .expired | .notFound, .notFound => true
    | _, _ => false
  | _ => false

/-- Past a gate that refuses the reading, issue attempts report nothing but collisions and the
code they answer. -/
private theorem gain_issueAttempts_of_refused (x : Series) (g : Grant α) (ttl : Int) :
    ∀ (left : Nat) (attempt : UInt32) (y : String) (cache : CodeCache α),
      cache.store.gate.tryAcquire c.reading = none →
      Event.gain x (issueAttempts c g ttl attempt (IssuedCode.ofGrant y g) left cache).events =
        if (issueAttempts c g ttl attempt (IssuedCode.ofGrant y g) left cache).answer matches .ok _
        then (if x = .codesIssued then 1 else 0) else 0 := by
  intro left
  induction left with
  | zero => intro attempt y cache _; rfl
  | succ left ih =>
    intro attempt y cache hgate
    rcases hgen : cache.generator.generate with ⟨res, gen⟩
    cases res with
    | error e => simp [issueAttempts, hgen]
    | ok code =>
      -- The conditional write meets the refusing gate, so it reports no sweep.
      have hput : (cache.store.putIfAbsent c code (IssuedCode.ofGrant code g) ttl).events = [] := by
        have h := Store.events_perform cache.store c (.putIfAbsent code (IssuedCode.ofGrant code g) ttl)
        simp only [Store.runsSweep, StoreCall.isSweep, StoreCall.consultsGate, hgate,
          Option.isSome_none, Bool.and_false, Bool.or_false, Bool.false_eq_true, ↓reduceIte] at h
        exact h
      -- The gate it leaves still refuses the reading.
      have hgate' : ({ cache with
          store := (cache.store.putIfAbsent c code (IssuedCode.ofGrant code g) ttl).state,
          generator := gen } : CodeCache α).store.gate.tryAcquire c.reading = none := by
        have h : (cache.store.perform c (.putIfAbsent code (IssuedCode.ofGrant code g) ttl)).state.gate =
            cache.store.gate := Store.gate_perform_of_refused hgate
        change (cache.store.perform c (.putIfAbsent code (IssuedCode.ofGrant code g) ttl)).state.gate.tryAcquire
          c.reading = none
        rw [h]
        exact hgate
      cases hans : (cache.store.putIfAbsent c code (IssuedCode.ofGrant code g) ttl).answer with
      | error err => simp [issueAttempts, hgen, hans, hput]
      | ok r =>
        cases r with
        | none => simp [issueAttempts, hgen, hans, hput, Event.weight]
        | some v =>
          rw [issueAttempts_succ_of_collision hgen hans]
          simp only [hput, List.nil_append, Event.gain_cons]
          rw [ih (attempt + 1) code _ hgate']
          simp [Event.weight]

private theorem gain_issueWithTtl (x : Series) (cache : CodeCache α) (g : Grant α) (ttl : Int) :
    Event.gain x (cache.issueWithTtl c g ttl).events =
      (if cache.runsSweep c (.issueWithTtl g ttl) then
        (Event.swept cache.store.name (cache.store.sweepAt c.now).answer).weight x else 0) +
      (if (cache.issueWithTtl c g ttl).answer matches .ok _ then
        (if x = .codesIssued then 1 else 0) else 0) := by
  unfold issueWithTtl
  rcases hgen : cache.generator.generate with ⟨res, gen⟩
  cases res with
  | error e => simp [issueAttempts, hgen, runsSweep, consultsGate]
  | ok code =>
    have hrun : cache.runsSweep c (.issueWithTtl g ttl) =
        (cache.store.gate.tryAcquire c.reading).isSome := by
      simp [runsSweep, consultsGate, hgen]
    have hput := Store.events_perform cache.store c (.putIfAbsent code (IssuedCode.ofGrant code g) ttl)
    simp only [Store.perform, Outcome.mapAnswer, Store.runsSweep, StoreCall.isSweep,
      StoreCall.consultsGate, Bool.false_or, Bool.true_and] at hput
    rw [hrun]
    cases hans : (cache.store.putIfAbsent c code (IssuedCode.ofGrant code g) ttl).answer with
    | error err =>
      simp only [issueAttempts, hgen, IssuedCode.ofGrant_withCode, hans, hput]
      split <;> simp
    | ok r =>
      cases r with
      | none =>
        simp only [issueAttempts, hgen, IssuedCode.ofGrant_withCode, hans, hput]
        split <;> simp [Event.weight]
      | some v =>
        -- After the first write the gate refuses this reading: the later attempts never sweep.
        have hgate : ({ cache with
            store := (cache.store.putIfAbsent c code (IssuedCode.ofGrant code g) ttl).state,
            generator := gen } : CodeCache α).store.gate.tryAcquire c.reading = none := by
          have h : (cache.store.perform c (.putIfAbsent code (IssuedCode.ofGrant code g) ttl)).state.gate.tryAcquire
              c.reading = none := Store.refuses_perform rfl
          exact h
        rw [issueAttempts_succ_of_collision hgen hans]
        simp only [hput, Event.gain_append, Event.gain_cons]
        rw [gain_issueAttempts_of_refused x g ttl _ _ _ _ hgate]
        split <;> simp [Event.weight]

/-- A code-cache call reports its sweep, if it sweeps; an issue reports the code it answered, and
a redeem its verdict: the grant it handed back, or the code it found expired or absent. -/
theorem gain_perform (x : Series) (cache : CodeCache α) (call : CodeCall α) :
    Event.gain x (cache.perform c call).events =
      (if cache.runsSweep c call then
        (Event.swept cache.store.name (cache.store.sweepAt c.now).answer).weight x else 0) +
      (if (cache.perform c call).answer.isIssued then
        (if x = .codesIssued then 1 else 0) else 0) +
      (if (cache.perform c call).answer.isRedeemed then
        (if x = .codesRedeemed then 1 else 0) else 0) +
      (if cache.rejects c .expired call then (if x = .codesRejected .expired then 1 else 0) else 0) +
      (if cache.rejects c .notFound call then
        (if x = .codesRejected .notFound then 1 else 0) else 0) := by
  cases call with
  | issue g =>
    have hrun : cache.runsSweep c (.issue g) = cache.runsSweep c (.issueWithTtl g cache.ttl) := rfl
    simp only [perform, issue, Outcome.mapAnswer, rejects, Bool.false_eq_true, ↓reduceIte,
      Nat.add_zero, hrun, gain_issueWithTtl]
    rcases issueWithTtl_cases cache c g cache.ttl with ⟨err, hans, -⟩ | ⟨code, -, -, hans, -⟩ <;>
      simp [hans, CodeReply.isIssued, CodeReply.isRedeemed]
  | issueWithTtl g ttl =>
    simp only [perform, Outcome.mapAnswer, rejects, Bool.false_eq_true, ↓reduceIte, Nat.add_zero,
      gain_issueWithTtl]
    rcases issueWithTtl_cases cache c g ttl with ⟨err, hans, -⟩ | ⟨code, -, -, hans, -⟩ <;>
      simp [hans, CodeReply.isIssued, CodeReply.isRedeemed]
  | redeem code =>
    -- The removal reports the sweep; the verdict follows what it found.
    have htake := Store.gain_perform x cache.store c (.take code)
    simp only [Store.perform, Outcome.mapAnswer, Store.runsSweep, StoreCall.isSweep,
      StoreCall.consultsGate, Bool.false_or, Bool.true_and] at htake
    have hrun : cache.runsSweep c (.redeem code) = (cache.store.gate.tryAcquire c.reading).isSome := by
      simp [runsSweep, consultsGate]
    rw [hrun]
    cases hans : (cache.store.take c code).answer <;>
      simp [perform, redeem, Outcome.mapAnswer, rejects, hans, htake, Event.weight,
        CodeReply.isIssued, CodeReply.isRedeemed]
  | sweep =>
    simp [perform, sweep, Store.sweep, Store.sweepAt, Outcome.mapAnswer, runsSweep, rejects,
      Event.weight, CodeReply.isIssued, CodeReply.isRedeemed]

private theorem sweeps_issueAttempts (g : Grant α) (ttl : Int) :
    ∀ (left : Nat) (attempt : UInt32) (x : String) (cache : CodeCache α),
      Event.gain (.sweeps cache.store.name)
          (issueAttempts c g ttl attempt (IssuedCode.ofGrant x g) left cache).events +
        cache.store.sweeps =
          (issueAttempts c g ttl attempt (IssuedCode.ofGrant x g) left cache).state.store.sweeps := by
  intro left
  induction left with
  | zero => intro attempt x cache; simp [issueAttempts]
  | succ left ih =>
    intro attempt x cache
    rcases hgen : cache.generator.generate with ⟨res, gen⟩
    cases res with
    | error e => simp [issueAttempts, hgen]
    | ok code =>
      -- The conditional write counts what it reports, and keeps the store's name.
      have hput : Event.gain (.sweeps cache.store.name)
          (cache.store.putIfAbsent c code (IssuedCode.ofGrant code g) ttl).events + cache.store.sweeps =
            (cache.store.putIfAbsent c code (IssuedCode.ofGrant code g) ttl).state.sweeps :=
        Store.sweeps_accounted cache.store c (.putIfAbsent code (IssuedCode.ofGrant code g) ttl)
      have hname : (cache.store.putIfAbsent c code (IssuedCode.ofGrant code g) ttl).state.name =
          cache.store.name :=
        Store.name_perform cache.store c (.putIfAbsent code (IssuedCode.ofGrant code g) ttl)
      cases hans : (cache.store.putIfAbsent c code (IssuedCode.ofGrant code g) ttl).answer with
      | error err => simpa [issueAttempts, hgen, hans] using hput
      | ok r =>
        cases r with
        | none =>
          simpa [issueAttempts, hgen, hans, Event.weight, Series.sweeps, Series.codesIssued]
            using hput
        | some v =>
          have hrest := ih (attempt + 1) code { cache with
            store := (cache.store.putIfAbsent c code (IssuedCode.ofGrant code g) ttl).state,
            generator := gen }
          simp only [hname] at hrest
          rw [issueAttempts_succ_of_collision hgen hans]
          simp only [Event.gain_append, Event.gain_cons]
          simp only [Event.weight, Nat.zero_add]
          omega

theorem sweeps_accounted (cache : CodeCache α) (call : CodeCall α) :
    Event.gain (.sweeps cache.store.name) (cache.perform c call).events + cache.store.sweeps =
      (cache.perform c call).state.store.sweeps := by
  rcases perform_cases cache c call with ⟨g, ttl, -, hperf⟩ | ⟨code, -, hperf⟩ | ⟨-, hperf⟩
  · rw [hperf]
    exact sweeps_issueAttempts g ttl _ 0 "" cache
  · -- The removal counts what it reports; the verdict is no sweep.
    have h := Store.sweeps_accounted cache.store c (.take code)
    simp only [Store.perform, Outcome.mapAnswer] at h
    rw [hperf, Outcome.state_mapAnswer, redeem_store]
    simp only [Store.perform, Outcome.mapAnswer]
    cases hans : (cache.store.take c code).answer <;>
      simpa [redeem, hans, Event.weight, Series.sweeps, Series.codesRedeemed,
        Series.codesRejected] using h
  · rw [hperf]
    exact Store.sweeps_accounted cache.store c .sweep

end CodeCache

namespace TokenCall

variable {β : Type}

def isCreate : TokenCall β → Bool
  | .create _ _ => true
  | _ => false

def bulkReason? : TokenCall β → Option DeleteReason
  | .deleteByZone zone => some (.zone zone.name)
  | .deleteByOrigin origin zone => some (.origin origin zone.name)
  | .deleteByUser user zone => some (.user user zone.name)
  | .deleteByClient client zone => some (.client client zone.name)
  | _ => none

end TokenCall

namespace TokenReply

variable {β : Type}

def isToken : TokenReply β → Bool
  | .token (.ok _) => true
  | _ => false

def isDeleted : TokenReply β → Bool
  | .deleted (some _) => true
  | _ => false

end TokenReply

namespace TokenCache

variable {β : Type}

def expiredOnRead (cache : TokenCache β) (c : Clock) : TokenCall β → Option String
  | .retrieve id | .retrieveChecked id true =>
    if (cache.store.read c id).answer matches .expired then some id else none
  | _ => none

def expiredGain (x : Series) (cache : TokenCache β) (c : Clock) (call : TokenCall β) : Nat :=
  match cache.expiredOnRead c call with
  | some id => if x = .tokensDeleted (.expired id) then 1 else 0
  | none => 0

def bulkGain (x : Series) (call : TokenCall β) (answer : TokenReply β) : Nat :=
  match call.bulkReason?, answer with
  | some r, .count n => if x = .tokensDeleted r then n else 0
  | _, _ => 0

/-- A token-cache call reports the sweep of its store call; then a create that answered a token
reports it, a revocation that found its token reports one deletion, a checked read that found its
token expired reports one deletion, and a bulk revocation reports the deletions it answered. -/
theorem gain_perform (x : Series) (cache : TokenCache β) (c : Clock) (call : TokenCall β) :
    Event.gain x (cache.perform c call).events =
      (if cache.store.runsSweep c (call.onStore cache.zones) then
        (Event.swept cache.store.name (cache.store.sweepAt c.now).answer).weight x else 0) +
      (if call.isCreate && (cache.perform c call).answer.isToken then
        (if x = .tokensCreated then 1 else 0) else 0) +
      (if (cache.perform c call).answer.isDeleted then
        (if x = .tokensDeleted .revoked then 1 else 0) else 0) +
      cache.expiredGain x c call + bulkGain x call (cache.perform c call).answer := by
  -- The store call reports the sweep; the rest is what the token call adds after it.
  have hstore := Store.gain_perform x cache.store c (call.onStore cache.zones)
  cases call with
  | create scopes t =>
    simp only [TokenCall.onStore, Store.perform, Outcome.mapAnswer] at hstore
    by_cases hle : t.expires ≤ c.now <;>
      simp [perform, create, lift, Outcome.mapAnswer, currentZone, Store.putUntil_answer, hle,
        hstore, TokenCall.onStore, expiredOnRead, expiredGain, bulkGain, TokenCall.bulkReason?,
        TokenCall.isCreate, TokenReply.isToken, TokenReply.isDeleted, Event.weight]
  | update scopes id t =>
    simp only [TokenCall.onStore, Store.perform, Outcome.mapAnswer] at hstore
    simp [perform, update, lift, Outcome.mapAnswer, currentZone, hstore, TokenCall.onStore,
      expiredOnRead, expiredGain, bulkGain, TokenCall.bulkReason?, TokenCall.isCreate,
      TokenReply.isDeleted]
  | retrieve id =>
    simp only [TokenCall.onStore, Store.perform, Outcome.mapAnswer, Store.lookup,
      Bool.false_eq_true, ↓reduceIte, Event.weight] at hstore
    cases hans : (cache.store.read c id).answer <;>
      simp [perform, retrieve, retrieveChecked, lift, Outcome.mapAnswer, hans, hstore,
        TokenCall.onStore, expiredOnRead, expiredGain, bulkGain, TokenCall.bulkReason?,
        TokenCall.isCreate, TokenReply.isDeleted, Event.weight]
  | retrieveChecked id check =>
    cases check
    · simp [perform, retrieveChecked, Outcome.mapAnswer, Store.runsSweep, TokenCall.onStore,
        StoreCall.isSweep, StoreCall.consultsGate, expiredOnRead, expiredGain, bulkGain,
        TokenCall.bulkReason?, TokenCall.isCreate, TokenReply.isDeleted]
    · simp only [TokenCall.onStore, Store.perform, Outcome.mapAnswer, Store.lookup,
        Bool.false_eq_true, ↓reduceIte, Event.weight] at hstore
      cases hans : (cache.store.read c id).answer <;>
        simp [perform, retrieveChecked, lift, Outcome.mapAnswer, hans, hstore, TokenCall.onStore,
          expiredOnRead, expiredGain, bulkGain, TokenCall.bulkReason?, TokenCall.isCreate,
          TokenReply.isDeleted, Event.weight]
  | delete id =>
    cases hf : cache.store.find? id <;>
      simp [perform, delete, Outcome.mapAnswer, Store.remove, hf, Store.runsSweep,
        TokenCall.onStore, StoreCall.isSweep, StoreCall.consultsGate, expiredOnRead, expiredGain,
        bulkGain, TokenCall.bulkReason?, TokenCall.isCreate, TokenReply.isDeleted, Event.weight]
  | sweep =>
    simp only [TokenCall.onStore, Store.perform, Outcome.mapAnswer] at hstore
    simp [perform, sweep, lift, Outcome.mapAnswer, hstore, TokenCall.onStore, expiredOnRead,
      expiredGain, bulkGain, TokenCall.bulkReason?, TokenCall.isCreate, TokenReply.isDeleted]
  | _ =>
    simp [perform, deleteByZone, deleteByOrigin, deleteByUser, deleteByClient, deleteLive,
      Outcome.mapAnswer, Store.runsSweep, TokenCall.onStore, StoreCall.isSweep,
      StoreCall.consultsGate, expiredOnRead, expiredGain, bulkGain, TokenCall.bulkReason?,
      TokenCall.isCreate, TokenReply.isDeleted, Event.weight]

theorem sweeps_accounted (cache : TokenCache β) (c : Clock) (call : TokenCall β) :
    Event.gain (.sweeps cache.store.name) (cache.perform c call).events + cache.store.sweeps =
      (cache.perform c call).state.store.sweeps := by
  rw [gain_perform, perform_store, Store.sweeps_perform]
  have hexp : cache.expiredGain (.sweeps cache.store.name) c call = 0 := by
    unfold expiredGain
    split <;> simp [Series.sweeps, Series.tokensDeleted]
  have hbulk : bulkGain (.sweeps cache.store.name) call (cache.perform c call).answer = 0 := by
    unfold bulkGain
    split <;> simp [Series.sweeps, Series.tokensDeleted]
  rw [hexp, hbulk]
  split <;> simp [Event.weight, Series.sweeps, Series.sweptEntries, Series.tokensCreated,
    Series.tokensDeleted, Nat.add_comm]

end TokenCache

end CredentialCache
