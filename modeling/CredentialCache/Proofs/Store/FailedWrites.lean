import CredentialCache.Proofs.Token.Calls
/-!
# Failed writes

A write fails exactly when the expiry it would store is not a later calendar instant: a ttl that is
not positive, or that carries the clock's instant past the last millisecond of the calendar range
(the sum is taken over unbounded integers, so no ttl overflows), or an expiry instant that is not
after the clock's instant. Every failure is an illegal state, and it is atomic: the write has run
its throttled sweep first, and leaves the store exactly as that sweep left it, so nothing is
stored and the entry under the key, live or expired, stays unless the sweep dropped it. Storing a
token reaches the same check with the token's own expiry instant.
-/

namespace CredentialCache

private theorem InsertError.kind_toAppError (err : InsertError) : err.toAppError.kind = .illegalState := by
  cases err <;> rfl

namespace Store

variable {α β : Type} {s : Store α} {c : Clock} {k : String} {d : Int} {now : Instant}

/-- A write made at `c` that fails exactly when `bad` holds, always as an illegal state, and that
when it fails leaves the store as its throttled sweep left it. -/
structure RefusesExactly (s : Store α) (c : Clock) (bad : Prop)
    (r : Outcome (Store α) (Except InsertError β)) : Prop where
  fails_iff : (∃ err, r.answer = .error err) ↔ bad
  illegal : ∀ err, r.answer = .error err → err.toAppError.kind = .illegalState
  state_of_fails : ∀ err, r.answer = .error err → r.state = (s.maybeSweep c).state

/-- The expiry of a ttl fails when the ttl is not positive, and otherwise exactly when the sum
passes the last millisecond of the calendar range; it cannot fall below the first. -/
theorem expiryAfter_eq_error_iff {err : InsertError} :
    expiryAfter k now d = .error err ↔
      (d ≤ 0 ∧ err = .expiresImmediately k d) ∨
        (0 < d ∧ Instant.maxMs < now.ms + d ∧ err = .outOfRange k d) := by
  unfold expiryAfter Instant.addMs?
  by_cases hd : d ≤ 0
  · simp only [hd, if_true, Except.error.injEq, true_and]
    constructor
    · intro h; exact .inl h.symm
    · rintro (h | ⟨h, -⟩)
      · exact h.symm
      · omega
  · simp only [hd, if_false, false_and, false_or]
    have hmin := now.ge_min
    cases h : Instant.ofMs? (now.ms + d) with
    | none =>
      have hout := Instant.ofMs?_eq_none_iff.1 h
      unfold Instant.InRange at hout
      simp only [Except.error.injEq]
      constructor
      · intro herr; exact ⟨by omega, by omega, herr.symm⟩
      · rintro ⟨-, -, herr⟩; exact herr.symm
    | some e =>
      have he := Instant.ofMs?_eq_some_iff.1 h
      have hmax := e.le_max
      simp only [reduceCtorEq, false_iff, not_and]
      intro _ hlt
      omega

private theorem expiryAfter_fails_iff :
    (∃ err, expiryAfter k now d = .error err) ↔ d ≤ 0 ∨ Instant.maxMs < now.ms + d := by
  simp only [expiryAfter_eq_error_iff]
  constructor
  · rintro ⟨err, ⟨hd, -⟩ | ⟨-, hmax, -⟩⟩
    · exact .inl hd
    · exact .inr hmax
  · intro h
    by_cases hd : d ≤ 0
    · exact ⟨_, .inl ⟨hd, rfl⟩⟩
    · exact ⟨_, .inr ⟨by omega, h.resolve_left hd, rfl⟩⟩

theorem exists_expiryAfter_eq_ok (hd : 0 < d) (hmax : now.ms + d ≤ Instant.maxMs) :
    ∃ exp, expiryAfter k now d = .ok exp ∧ exp.ms = now.ms + d := by
  have hmin := now.ge_min
  have hin : Instant.InRange (now.ms + d) := ⟨by unfold Instant.minMs at *; omega, hmax⟩
  exact ⟨⟨now.ms + d, hin.1, hin.2⟩, expiryAfter_eq_ok_iff.2 ⟨hd, rfl⟩, rfl⟩

private theorem refusesExactly_of_expiryAfter {r : Outcome (Store α) (Except InsertError β)}
    (hans : ∀ err, r.answer = .error err ↔ expiryAfter k c.now d = .error err)
    (hst : ∀ err, expiryAfter k c.now d = .error err → r.state = (s.maybeSweep c).state) :
    s.RefusesExactly c (d ≤ 0 ∨ Instant.maxMs < c.now.ms + d) r where
  fails_iff := by
    simp only [hans]
    exact expiryAfter_fails_iff
  illegal err _ := InsertError.kind_toAppError err
  state_of_fails err h := hst err ((hans err).1 h)

private theorem put_refusesExactly (s : Store α) (c : Clock) (k : String) (v : α) (d : Int) :
    s.RefusesExactly c (d ≤ 0 ∨ Instant.maxMs < c.now.ms + d) (s.put c k v d) := by
  apply refusesExactly_of_expiryAfter
  · intro err
    rw [put_answer]
    cases expiryAfter k c.now d <;> simp [Except.map]
  · intro err hexp
    rw [put_state, hexp]

private theorem putIfAbsent_refusesExactly (s : Store α) (c : Clock) (k : String) (v : α) (d : Int) :
    s.RefusesExactly c (d ≤ 0 ∨ Instant.maxMs < c.now.ms + d) (s.putIfAbsent c k v d) := by
  apply refusesExactly_of_expiryAfter
  · intro err
    rw [putIfAbsent_answer]
    cases expiryAfter k c.now d <;> simp
  · intro err hexp
    rw [putIfAbsent_state, hexp]

private theorem putUntil_refusesExactly (s : Store α) (c : Clock) (k : String) (v : α) (x : Instant) :
    s.RefusesExactly c (x.ms ≤ c.now.ms) (s.putUntil c k v x) where
  fails_iff := by
    rw [putUntil_answer]
    by_cases hx : x.ms ≤ c.now.ms <;> simp [hx]
  illegal err _ := InsertError.kind_toAppError err
  state_of_fails err h := by
    rw [putUntil_answer] at h
    rw [putUntil_state]
    by_cases hx : x ≤ c.now
    · rw [if_pos hx]
    · simp [hx] at h

end Store

namespace TokenCache

variable {α : Type} {cache : TokenCache α} {c : Clock}

structure RefusesExactly {β : Type} (cache : TokenCache α) (c : Clock) (bad : Prop)
    (r : Outcome (TokenCache α) (Except AppError β)) : Prop where
  fails_iff : (∃ msg, r.answer = .error (.illegalState msg)) ↔ bad
  illegal : ∀ err, r.answer = .error err → err.kind = .illegalState
  state_of_fails : ∀ err, r.answer = .error err →
    r.state = { cache with store := (cache.store.maybeSweep c).state }

private theorem refusesExactly_of_putUntil {β : Type} {r : Outcome (TokenCache α) (Except AppError β)}
    {w : Outcome (Store (RevocableToken α)) (Except InsertError Unit)} {x : Instant}
    (hw : cache.store.RefusesExactly c (x.ms ≤ c.now.ms) w)
    (hans : ∀ err, r.answer = .error err ↔ ∃ e, w.answer = .error e ∧ e.toAppError = err)
    (hst : r.state = { cache with store := w.state }) :
    cache.RefusesExactly c (x.ms ≤ c.now.ms) r where
  fails_iff := by
    rw [← hw.fails_iff]
    constructor
    · rintro ⟨msg, h⟩
      obtain ⟨e, he, -⟩ := (hans _).1 h
      exact ⟨e, he⟩
    · rintro ⟨e, he⟩
      -- Every store failure becomes an illegal state with some detail.
      have hillegal : e.toAppError = .illegalState e.toAppError.detail := by cases e <;> rfl
      exact ⟨e.toAppError.detail, (hans _).2 ⟨e, he, hillegal⟩⟩
  illegal err h := by
    obtain ⟨e, -, rfl⟩ := (hans err).1 h
    exact InsertError.kind_toAppError e
  state_of_fails err h := by
    obtain ⟨e, he, -⟩ := (hans err).1 h
    rw [hst, hw.state_of_fails e he]

private theorem create_refusesExactly (cache : TokenCache α) (c : Clock) (scopes : List ZoneId)
    (t : RevocableToken α) :
    cache.RefusesExactly c (t.expires.ms ≤ c.now.ms) (cache.create c scopes t) := by
  apply refusesExactly_of_putUntil (Store.putUntil_refusesExactly _ c t.tokenId
    { t with zone := cache.currentZone scopes } t.expires)
  · intro err
    unfold create lift
    dsimp only
    split <;> simp_all
  · exact create_state cache c scopes t

private theorem update_refusesExactly (cache : TokenCache α) (c : Clock) (scopes : List ZoneId)
    (id : String) (t : RevocableToken α) :
    cache.RefusesExactly c (t.expires.ms ≤ c.now.ms) (cache.update c scopes id t) := by
  apply refusesExactly_of_putUntil (Store.putUntil_refusesExactly _ c id
    { t with tokenId := id, zone := cache.currentZone scopes } t.expires)
  · intro err
    unfold update lift
    dsimp only
    cases (cache.store.putUntil c id _ t.expires).answer <;> simp [Except.map, Except.mapError]
  · rfl

end TokenCache

variable {α β : Type}

/-- Insertion errors are exact and atomic. A write for a ttl `d` (plain or conditional) fails
exactly when `d` is not positive or the clock's instant plus `d` passes the last millisecond of the
calendar range; a write until an instant, and storing or updating a token until its own expiry,
fail exactly when that instant is not after the clock's instant. Each failure is an illegal state
and leaves the store exactly as the write's throttled sweep left it. -/
theorem failed_writes_only_sweep (s : Store α) (c : Clock) (k : String) (v : α) (d : Int)
    (x : Instant) (cache : TokenCache β) (scopes : List ZoneId) (id : String)
    (t : RevocableToken β) :
    s.RefusesExactly c (d ≤ 0 ∨ Instant.maxMs < c.now.ms + d) (s.put c k v d) ∧
      s.RefusesExactly c (d ≤ 0 ∨ Instant.maxMs < c.now.ms + d) (s.putIfAbsent c k v d) ∧
      s.RefusesExactly c (x.ms ≤ c.now.ms) (s.putUntil c k v x) ∧
      cache.RefusesExactly c (t.expires.ms ≤ c.now.ms) (cache.create c scopes t) ∧
      cache.RefusesExactly c (t.expires.ms ≤ c.now.ms) (cache.update c scopes id t) :=
  ⟨Store.put_refusesExactly s c k v d, Store.putIfAbsent_refusesExactly s c k v d,
    Store.putUntil_refusesExactly s c k v x, TokenCache.create_refusesExactly cache c scopes t,
    TokenCache.update_refusesExactly cache c scopes id t⟩

end CredentialCache
