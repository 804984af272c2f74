import CredentialCache.Code.Cache
import CredentialCache.Proofs.Store.Calls
/-!
# Calls to a code cache

Issuing, redeeming and sweeping as calls made at a clock, and what each does to the stored codes.
Issuing draws candidates until one is free: whatever it answers it has swept the store, and when
it answers a code it has stored that code's entry, replacing only an expired one. Redeeming
removes the code and hands back its grant if it was live. A sweep only drops expired codes.
-/

namespace CredentialCache

inductive CodeCall (α : Type)
  | issue (g : Grant α)
  | issueWithTtl (g : Grant α) (ttl : Int)
  | redeem (code : String)
  | sweep

inductive CodeReply (α : Type)
  | issued (r : Except AppError String)
  | redeemed (r : Except AppError (Grant α))
  | swept (n : Nat)

def CodeCall.grant? {α : Type} : CodeCall α → Option (Grant α)
  | .issue g | .issueWithTtl g _ => some g
  | .redeem _ | .sweep => none

namespace CodeCache

variable {α : Type}

def perform (cache : CodeCache α) (c : Clock) : CodeCall α → Outcome (CodeCache α) (CodeReply α)
  | .issue g => (cache.issue c g).mapAnswer .issued
  | .issueWithTtl g ttl => (cache.issueWithTtl c g ttl).mapAnswer .issued
  | .redeem code => (cache.redeem c code).mapAnswer .redeemed
  | .sweep => (cache.sweep c).mapAnswer .swept

def step (cache : CodeCache α) (call : Clock × CodeCall α) : Outcome (CodeCache α) (CodeReply α) :=
  cache.perform call.1 call.2

def issuedAs (code : String) (x : (Clock × CodeCall α) × CodeReply α) : Option (Grant α) :=
  match x.2 with
  | .issued (.ok c) => if c = code then x.1.2.grant? else none
  | _ => none

def redeemedAs (code : String) : (Clock × CodeCall α) × CodeReply α → Option (Grant α)
  | ((_, .redeem c), .redeemed (.ok g)) => if c = code then some g else none
  | _ => none

/-! ## Issuing -/

/-- A collision hands back the record offered, so the next attempt offers the grant again, under
its own draw. -/
theorem issueAttempts_succ_of_collision {c : Clock} {g : Grant α} {ttl : Int} {attempt : UInt32}
    {x code : String} {left : Nat} {cache : CodeCache α} {gen : CodeGenerator} {v : IssuedCode α}
    (hgen : cache.generator.generate = (.ok code, gen))
    (hans : (cache.store.putIfAbsent c code (IssuedCode.ofGrant code g) ttl).answer = .ok (some v)) :
    issueAttempts c g ttl attempt (IssuedCode.ofGrant x g) (left + 1) cache =
      let r := cache.store.putIfAbsent c code (IssuedCode.ofGrant code g) ttl
      let rest := issueAttempts c g ttl (attempt + 1) (IssuedCode.ofGrant code g) left
        { cache with store := r.state, generator := gen }
      { rest with events := r.events ++ .codeCollided (attempt + 1) :: rest.events } := by
  obtain rfl : v = IssuedCode.ofGrant code g := Store.putIfAbsent_handsBack hans
  simp only [issueAttempts, hgen, IssuedCode.ofGrant_withCode, hans]

/-- Issuing either fails, having at most swept the store, or answers a code that no entry held
live after its sweeps, and stores that code's entry, expiring `ttl` after the clock's instant, in
place of whatever the key held. -/
private theorem issueAttempts_cases (c : Clock) (g : Grant α) (ttl : Int) (attempt : UInt32) (x : String)
    (left : Nat) (cache : CodeCache α) :
    (∃ err, (issueAttempts c g ttl attempt (IssuedCode.ofGrant x g) left cache).answer = .error err ∧
      cache.store.TrimmedAt c.now (issueAttempts c g ttl attempt (IssuedCode.ofGrant x g) left cache).state.store) ∨
    ∃ code s exp, (issueAttempts c g ttl attempt (IssuedCode.ofGrant x g) left cache).answer = .ok code ∧
      cache.store.TrimmedAt c.now s ∧ (s.find? code).any (·.isLiveAt c.now) = false ∧
      0 < ttl ∧ exp.ms = c.now.ms + ttl ∧
      (issueAttempts c g ttl attempt (IssuedCode.ofGrant x g) left cache).state.store =
        s.insert ⟨code, IssuedCode.ofGrant code g, c.now, exp⟩ := by
  -- A collision only sweeps, so the trimmings of the attempts compose.
  induction left generalizing attempt x cache with
  | zero => exact .inl ⟨_, rfl, Store.TrimmedAt.refl _ _⟩
  | succ left ih =>
    rcases hgen : cache.generator.generate with ⟨res, gen⟩
    cases res with
    | error e =>
      simp only [issueAttempts, hgen]
      exact .inl ⟨e, rfl, Store.TrimmedAt.refl _ _⟩
    | ok code =>
      have hswept := Store.trimmedAt_maybeSweep cache.store c
      rcases Store.putIfAbsent_cases cache.store c code (IssuedCode.ofGrant code g) ttl with
        ⟨err, hans, hst⟩ | ⟨-, hans, hst⟩ | ⟨exp, httl, hms, hfree, hans, hst⟩
      · simp only [issueAttempts, hgen, IssuedCode.ofGrant_withCode, hans]
        exact .inl ⟨_, rfl, hst ▸ hswept⟩
      · rw [issueAttempts_succ_of_collision hgen hans]
        rcases ih (attempt + 1) code { cache with store := _, generator := gen } with
          ⟨err, herr, htrim⟩ | ⟨code', s, exp, hok, htrim, hrest⟩
        · exact .inl ⟨err, herr, hswept.trans (hst ▸ htrim)⟩
        · exact .inr ⟨code', s, exp, hok, hswept.trans (hst ▸ htrim), hrest⟩
      · simp only [issueAttempts, hgen, IssuedCode.ofGrant_withCode, hans]
        exact .inr ⟨code, _, exp, rfl, hswept, hfree, httl, hms, hst⟩

theorem issueWithTtl_cases (cache : CodeCache α) (c : Clock) (g : Grant α) (ttl : Int) :
    (∃ err, (cache.issueWithTtl c g ttl).answer = .error err ∧
      cache.store.TrimmedAt c.now (cache.issueWithTtl c g ttl).state.store) ∨
    ∃ code s exp, (cache.issueWithTtl c g ttl).answer = .ok code ∧
      cache.store.TrimmedAt c.now s ∧ (s.find? code).any (·.isLiveAt c.now) = false ∧
      0 < ttl ∧ exp.ms = c.now.ms + ttl ∧
      (cache.issueWithTtl c g ttl).state.store =
        s.insert ⟨code, IssuedCode.ofGrant code g, c.now, exp⟩ :=
  issueAttempts_cases c g ttl 0 "" (cache.retries + 1) cache

/-- Every call issues for its grant, with the ttl it names or the cache's own, or redeems a code,
or sweeps. -/
theorem perform_cases (cache : CodeCache α) (c : Clock) (call : CodeCall α) :
    (∃ g ttl, call.grant? = some g ∧
      cache.perform c call = (cache.issueWithTtl c g ttl).mapAnswer .issued) ∨
    (∃ code, call = .redeem code ∧
      cache.perform c call = (cache.redeem c code).mapAnswer .redeemed) ∨
    (call = .sweep ∧ cache.perform c call = (cache.sweep c).mapAnswer .swept) := by
  cases call with
  | issue g => exact .inl ⟨g, cache.ttl, rfl, rfl⟩
  | issueWithTtl g ttl => exact .inl ⟨g, ttl, rfl, rfl⟩
  | redeem code => exact .inr (.inl ⟨code, rfl, rfl⟩)
  | sweep => exact .inr (.inr ⟨rfl, rfl⟩)

/-! ## Redeeming and sweeping -/

theorem redeem_answer (cache : CodeCache α) (c : Clock) (code : String) :
    (cache.redeem c code).answer = match (cache.store.maybeSweep c).state.find? code with
      | some e => if e.isExpiredAt c.now
        then .error (.invalidGrant s!"Authorization code expired: {code}") else .ok e.value.grant
      | none => .error (.invalidGrant s!"Invalid authorization code: {code}") := by
  unfold redeem
  dsimp only
  rw [Store.take_answer]
  cases (cache.store.maybeSweep c).state.find? code with
  | none => rfl
  | some e => by_cases he : e.isExpiredAt c.now <;> simp [he]

theorem redeem_entries (cache : CodeCache α) (c : Clock) (code : String) :
    (cache.redeem c code).state.store.entries =
      (cache.store.maybeSweep c).state.entries.filter (·.key != code) := by
  have hstore : (cache.redeem c code).state.store = (cache.store.take c code).state := by
    unfold redeem
    dsimp only
    cases (cache.store.take c code).answer <;> rfl
  rw [hstore, Store.take_entries]

theorem redeem_eq_ok {cache : CodeCache α} {c : Clock} {code : String} {g : Grant α}
    (h : (cache.redeem c code).answer = .ok g) :
    ∃ e ∈ cache.store.entries, e.key = code ∧ e.isLiveAt c.now ∧ e.value.grant = g := by
  rw [redeem_answer] at h
  cases hfind : (cache.store.maybeSweep c).state.find? code with
  | none => simp [hfind] at h
  | some e =>
    rw [hfind] at h
    by_cases he : e.isExpiredAt c.now
    · simp [he] at h
    · simp only [he, if_false, Bool.false_eq_true, Except.ok.injEq] at h
      have hmem := Store.mem_of_mem_maybeSweep (List.mem_of_find?_eq_some hfind)
      have hkey : e.key = code := by simpa using List.find?_some hfind
      exact ⟨e, hmem, hkey, by simpa using he, h⟩

theorem sweep_trimmed (cache : CodeCache α) (c : Clock) :
    cache.store.TrimmedAt c.now (cache.sweep c).state.store :=
  Store.trimmedAt_sweepAt cache.store c.now

end CodeCache

end CredentialCache
