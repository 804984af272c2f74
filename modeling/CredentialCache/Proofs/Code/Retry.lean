import CredentialCache.Proofs.Store.Staleness
import CredentialCache.Proofs.Store.FailedWrites
/-!
# The retry loop of issuing

Issuing draws a candidate from the generator and offers it to the store as a conditional write,
up to one draw more than the retry bound. All attempts run at one clock, so only the first
conditional write can sweep: the gate has refused or taken that reading by the second. The call
is settled by the first draw that fails, whose error it answers, or that gives a code no entry
holds live, which it stores for the grant with the ttl; the codes drawn before were held live and
their entries are left as they were. A ttl that gives no expiry instant fails the first
conditional write, so then exactly one candidate is drawn; and when every draw collides the call
fails as an illegal state, having only swept.
-/

namespace CredentialCache

namespace CodeGenerator

def after : Nat → CodeGenerator → CodeGenerator
  | 0, g => g
  | n + 1, g => after n g.generate.2

def answerAfter (g : CodeGenerator) (n : Nat) : Except AppError String := (g.after n).generate.1

@[simp] theorem after_zero (g : CodeGenerator) : after 0 g = g := rfl

private theorem after_one (g : CodeGenerator) : g.after 1 = g.generate.2 := rfl

private theorem answerAfter_zero (g : CodeGenerator) : g.answerAfter 0 = g.generate.1 := rfl

end CodeGenerator

namespace Store

variable {α : Type} {s : Store α} {c : Clock} {k : String} {e : Entry α}

private theorem maybeSweep_maybeSweep (s : Store α) (c : Clock) :
    ((s.maybeSweep c).state.maybeSweep c).state = (s.maybeSweep c).state := by
  have hrefused : (s.perform c .maybeSweep).state.gate.tryAcquire c.reading = none :=
    refuses_perform rfl
  change (s.maybeSweep c).state.gate.tryAcquire c.reading = none at hrefused
  rcases maybeSweep_cases (s.maybeSweep c).state c with ⟨-, -, hs⟩ | ⟨g, hg, -, -⟩
  · exact hs
  · rw [hrefused] at hg
    cases hg

private theorem find?_insert_of_ne (hk : e.key ≠ k) : (s.insert e).find? k = s.find? k := by
  have hek : (e.key == k) = false := by simpa using hk
  simp only [find?, entries_insert, List.find?_cons, hek, List.find?_filter]
  congr 1
  funext x
  by_cases hx : x.key = k
  · simp [hx, Ne.symm hk]
  · simp [hx]

private theorem KeysUnique.find?_maybeSweep (h : s.KeysUnique) (hlive : (s.liveUnder c.now k).isSome) :
    (s.maybeSweep c).state.find? k = s.find? k := by
  rcases entries_maybeSweep s c with hs | hs
  · simp only [find?, hs]
  · have hunder : (s.maybeSweep c).state.find? k = s.liveUnder c.now k := by
      simp only [find?, hs, liveUnder]
    rw [hunder, h.liveUnder_eq] at *
    rw [Option.isSome_filter] at hlive
    cases hf : s.find? k with
    | none => rfl
    | some x =>
      rw [hf, Option.any_some] at hlive
      simp [Option.filter_some, hlive]

end Store

namespace CodeCache

variable {α : Type} {c : Clock} {g : Grant α} {d : Int} {attempt : UInt32} {x : String} {left : Nat}
  {cache : CodeCache α} {gen : CodeGenerator}

/-- The first `j` draws of `gen` all gave codes that `s` holds live at `t`. -/
def CollidesBefore (gen : CodeGenerator) (s : Store (IssuedCode α)) (t : Instant) (j : Nat) :
    Prop :=
  ∀ i < j, ∃ code, gen.answerAfter i = .ok code ∧ (s.liveUnder t code).isSome

/-- `s'` holds under each code among the first `j` draws of `gen` what `s` held there. -/
def KeepsDrawn (gen : CodeGenerator) (s s' : Store (IssuedCode α)) (j : Nat) : Prop :=
  ∀ i < j, ∀ code, gen.answerAfter i = .ok code → s'.find? code = s.find? code

private theorem collidesBefore_zero (gen : CodeGenerator) (s : Store (IssuedCode α)) (t : Instant) :
    CollidesBefore gen s t 0 := fun _ hi => absurd hi (Nat.not_lt_zero _)

theorem CollidesBefore.cons {s : Store (IssuedCode α)} {t : Instant} {code : String} {j : Nat}
    (h : CollidesBefore (gen.after 1) s t j) (hfirst : gen.answerAfter 0 = .ok code)
    (hlive : (s.liveUnder t code).isSome) : CollidesBefore gen s t (j + 1) := by
  intro i hi
  cases i with
  | zero => exact ⟨code, hfirst, hlive⟩
  | succ i => exact h i (by omega)

/-! ## One attempt -/

section Attempt

variable {code : String}

abbrev offer (cache : CodeCache α) (c : Clock) (g : Grant α) (d : Int) (code : String) :
    Outcome (Store (IssuedCode α)) (Except InsertError (Option (IssuedCode α))) :=
  cache.store.putIfAbsent c code (IssuedCode.ofGrant code g) d

private theorem issueAttempts_of_failed_draw (attempt : UInt32) (x : String) (left : Nat) {err : AppError}
    (hgen : cache.generator.generate = (.error err, gen)) :
    (issueAttempts c g d attempt (IssuedCode.ofGrant x g) (left + 1) cache).answer = .error err ∧
      (issueAttempts c g d attempt (IssuedCode.ofGrant x g) (left + 1) cache).state = { cache with generator := gen } := by
  simp [issueAttempts, hgen]

private theorem issueAttempts_of_refused (attempt : UInt32) (x : String) (left : Nat) {err : InsertError}
    (hgen : cache.generator.generate = (.ok code, gen))
    (hans : (offer cache c g d code).answer = .error err) :
    (issueAttempts c g d attempt (IssuedCode.ofGrant x g) (left + 1) cache).answer = .error err.toAppError ∧
      (issueAttempts c g d attempt (IssuedCode.ofGrant x g) (left + 1) cache).state =
        { cache with store := (offer cache c g d code).state, generator := gen } := by
  simp [issueAttempts, hgen, hans]

private theorem issueAttempts_of_stored (attempt : UInt32) (x : String) (left : Nat)
    (hgen : cache.generator.generate = (.ok code, gen))
    (hans : (offer cache c g d code).answer = .ok none) :
    (issueAttempts c g d attempt (IssuedCode.ofGrant x g) (left + 1) cache).answer = .ok code ∧
      (issueAttempts c g d attempt (IssuedCode.ofGrant x g) (left + 1) cache).state =
        { cache with store := (offer cache c g d code).state, generator := gen } := by
  simp [issueAttempts, hgen, hans]

private theorem issueAttempts_of_collision (attempt : UInt32) (x : String) (left : Nat) {v : IssuedCode α}
    (hgen : cache.generator.generate = (.ok code, gen))
    (hans : (offer cache c g d code).answer = .ok (some v)) :
    let rest := issueAttempts c g d (attempt + 1) (IssuedCode.ofGrant code g) left
      { cache with store := (offer cache c g d code).state, generator := gen }
    (issueAttempts c g d attempt (IssuedCode.ofGrant x g) (left + 1) cache).answer = rest.answer ∧
      (issueAttempts c g d attempt (IssuedCode.ofGrant x g) (left + 1) cache).state = rest.state := by
  rw [issueAttempts_succ_of_collision hgen hans]
  exact ⟨rfl, rfl⟩

end Attempt

/-! ## A ttl that gives no expiry instant -/

/-- With a ttl that gives no expiry instant, the first attempt ends the call: its draw fails, and
nothing else happens, or its conditional write fails on the ttl after sweeping. -/
private theorem issueAttempts_of_unusable_ttl (hd : d ≤ 0 ∨ Instant.maxMs < c.now.ms + d) :
    let out := issueAttempts c g d attempt (IssuedCode.ofGrant x g) (left + 1) cache
    out.state.generator = cache.generator.after 1 ∧
      ((∃ err, cache.generator.answerAfter 0 = .error err ∧ out.answer = .error err ∧
          out.state.store = cache.store) ∨
        (∃ code, cache.generator.answerAfter 0 = .ok code ∧
          out.answer = .error (if d ≤ 0 then InsertError.expiresImmediately code d
            else .outOfRange code d).toAppError ∧
          out.state.store = (cache.store.maybeSweep c).state)) := by
  intro out
  rcases hgen : cache.generator.generate with ⟨res, gen⟩
  have hafter : cache.generator.after 1 = gen := by rw [CodeGenerator.after_one, hgen]
  have hfirst : cache.generator.answerAfter 0 = res := by rw [CodeGenerator.answerAfter_zero, hgen]
  cases res with
  | error err =>
    obtain ⟨hans, hst⟩ := issueAttempts_of_failed_draw (c := c) (g := g) (d := d)
      attempt x left hgen
    refine ⟨by rw [hst, hafter], .inl ⟨err, hfirst, hans, by rw [hst]⟩⟩
  | ok code =>
    -- The conditional write fails on the ttl, with the error of its expiry.
    have hexp : Store.expiryAfter code c.now d =
        .error (if d ≤ 0 then .expiresImmediately code d else .outOfRange code d) := by
      rw [Store.expiryAfter_eq_error_iff]
      by_cases hle : d ≤ 0
      · exact .inl ⟨hle, by simp [hle]⟩
      · exact .inr ⟨by omega, hd.resolve_left hle, by simp [hle]⟩
    have hans : (offer cache c g d code).answer =
        .error (if d ≤ 0 then .expiresImmediately code d else .outOfRange code d) := by
      rw [Store.putIfAbsent_answer, hexp]
    have hwrite : (offer cache c g d code).state = (cache.store.maybeSweep c).state := by
      rw [Store.putIfAbsent_state, hexp]
    obtain ⟨hout, hst⟩ := issueAttempts_of_refused attempt x left hgen hans
    refine ⟨by rw [hst, hafter], .inr ⟨code, hfirst, hout, by rw [hst, hwrite]⟩⟩

/-! ## A usable ttl -/

section Usable

variable {S : Store (IssuedCode α)}

/-- One attempt with a usable ttl, from a store whose throttled sweep leaves `S`: its draw fails
and ends the call, or gives a code free in `S`, which it stores there, or gives a code live in
`S`, which hands the call to the remaining attempts from `S` and the generator the draw left. -/
private theorem issueAttempt_cases (hd : 0 < d) (hmax : c.now.ms + d ≤ Instant.maxMs)
    (hk : cache.store.KeysUnique) (hS : (cache.store.maybeSweep c).state = S) (attempt : UInt32)
    (x : String) (left : Nat) :
    let out := issueAttempts c g d attempt (IssuedCode.ofGrant x g) (left + 1) cache
    let rest code := issueAttempts c g d (attempt + 1) (IssuedCode.ofGrant code g) left
      { cache with store := S, generator := cache.generator.after 1 }
    (∃ err, cache.generator.answerAfter 0 = .error err ∧ out.answer = .error err ∧
        out.state = { cache with generator := cache.generator.after 1 }) ∨
      (∃ code exp, cache.generator.answerAfter 0 = .ok code ∧ S.liveUnder c.now code = none ∧
        exp.ms = c.now.ms + d ∧ out.answer = .ok code ∧
        out.state =
          { cache with
            store := S.insert ⟨code, IssuedCode.ofGrant code g, c.now, exp⟩
            generator := cache.generator.after 1 }) ∨
      (∃ code, cache.generator.answerAfter 0 = .ok code ∧ (S.liveUnder c.now code).isSome ∧
        out.answer = (rest code).answer ∧ out.state = (rest code).state) := by
  intro out rest
  rcases hgen : cache.generator.generate with ⟨res, gen⟩
  have hafter : cache.generator.after 1 = gen := by rw [CodeGenerator.after_one, hgen]
  have hfirst : cache.generator.answerAfter 0 = res := by rw [CodeGenerator.answerAfter_zero, hgen]
  cases res with
  | error err =>
    obtain ⟨hans, hst⟩ := issueAttempts_of_failed_draw (c := c) (g := g) (d := d)
      attempt x left hgen
    exact .inl ⟨err, hfirst, hans, by rw [hst, hafter]⟩
  | ok code =>
    obtain ⟨exp, hexp, hms⟩ := Store.exists_expiryAfter_eq_ok (k := code) hd hmax
    -- Whether the code collides is read off the live entries, which the sweep keeps.
    have hfinds : ((cache.store.maybeSweep c).state.find? code).any (·.isLiveAt c.now) =
        (S.liveUnder c.now code).isSome := by
      rw [hk.putIfAbsent_finds c code, ← Store.liveUnder_maybeSweep, hS]
    cases hlive : (S.liveUnder c.now code).isSome with
    | false =>
      have hfree : S.liveUnder c.now code = none :=
        Option.not_isSome_iff_eq_none.1 (by simp [hlive])
      have hans : (offer cache c g d code).answer = .ok none := by
        rw [Store.putIfAbsent_answer, hexp, hfinds, hlive]
        rfl
      have hwrite : (offer cache c g d code).state =
          S.insert ⟨code, IssuedCode.ofGrant code g, c.now, exp⟩ := by
        rw [Store.putIfAbsent_state, hexp, hfinds, hlive, hS]
        rfl
      obtain ⟨hout, hst⟩ := issueAttempts_of_stored attempt x left hgen hans
      exact .inr (.inl ⟨code, exp, hfirst, hfree, hms, hout, by rw [hst, hwrite, hafter]⟩)
    | true =>
      have hans : (offer cache c g d code).answer = .ok (some (IssuedCode.ofGrant code g)) := by
        rw [Store.putIfAbsent_answer, hexp, hfinds, hlive]
        rfl
      have hwrite : (offer cache c g d code).state = S := by
        rw [Store.putIfAbsent_state, hexp, hfinds, hlive, hS]
        rfl
      obtain ⟨hout, hst⟩ := issueAttempts_of_collision attempt x left hgen hans
      rw [hwrite, ← hafter] at hout hst
      exact .inr (.inr ⟨code, hfirst, hlive, hout, hst⟩)

/-- How a run of attempts with a usable ttl ends, from a store whose throttled sweep leaves `S`
and with `S` left alone by every later one: settled by its first draw that fails or gives a code
free in `S`, or failed with every draw colliding. -/
private theorem issueAttempts_of_usable_ttl (hd : 0 < d) (hmax : c.now.ms + d ≤ Instant.maxMs)
    (hSS : (S.maybeSweep c).state = S) :
    ∀ (left : Nat) (attempt : UInt32) (x : String) (cache : CodeCache α), cache.store.KeysUnique →
      (cache.store.maybeSweep c).state = S →
      let out := issueAttempts c g d attempt (IssuedCode.ofGrant x g) left cache
      (∃ j < left, CollidesBefore cache.generator S c.now j ∧
        out.state.generator = cache.generator.after (j + 1) ∧
        ((∃ err, cache.generator.answerAfter j = .error err ∧ out.answer = .error err ∧
            out.state.store = if j = 0 then cache.store else S) ∨
          (∃ code exp, cache.generator.answerAfter j = .ok code ∧ S.liveUnder c.now code = none ∧
            exp.ms = c.now.ms + d ∧ out.answer = .ok code ∧
            out.state.store = S.insert ⟨code, IssuedCode.ofGrant code g, c.now, exp⟩))) ∨
      (CollidesBefore cache.generator S c.now left ∧
        out.state.generator = cache.generator.after left ∧
        out.answer = .error (.illegalState "Unable to generate a unique authorization code") ∧
        out.state.store = if left = 0 then cache.store else S) := by
  intro left
  -- Induction on the attempts left; a collision hands over from `S` itself, which `hSS` keeps.
  induction left with
  | zero =>
    intro attempt x cache _ _
    exact .inr ⟨collidesBefore_zero _ _ _, rfl, rfl, rfl⟩
  | succ left ih =>
    intro attempt x cache hk hS
    rcases issueAttempt_cases (g := g) hd hmax hk hS attempt x left with
      ⟨err, hfirst, hans, hst⟩ | ⟨code, exp, hfirst, hfree, hms, hans, hst⟩ |
        ⟨code, hfirst, hlive, hans, hst⟩
    · refine .inl ⟨0, by omega, collidesBefore_zero _ _ _, by rw [hst], .inl ?_⟩
      exact ⟨err, hfirst, hans, by rw [hst]; simp⟩
    · refine .inl ⟨0, by omega, collidesBefore_zero _ _ _, by rw [hst], .inr ?_⟩
      exact ⟨code, exp, hfirst, hfree, hms, hans, by rw [hst]⟩
    · have hkS : S.KeysUnique := hS ▸ hk.maybeSweep c
      rcases ih (attempt + 1) code { cache with store := S, generator := cache.generator.after 1 }
          hkS hSS with ⟨j, hj, hcoll, hgen, hend⟩ | ⟨hcoll, hgen, hansl, hstl⟩
      · refine .inl ⟨j + 1, by omega, hcoll.cons hfirst hlive, by rw [hst, hgen]; rfl, ?_⟩
        rcases hend with ⟨err, hdraw, hansj, hstj⟩ | ⟨code', exp', hdraw, hfree, hms, hansj, hstj⟩
        · exact .inl ⟨err, hdraw, by rw [hans, hansj], by rw [hst, hstj]; simp⟩
        · exact .inr ⟨code', exp', hdraw, hfree, hms, by rw [hans, hansj], by rw [hst, hstj]⟩
      · refine .inr ⟨hcoll.cons hfirst hlive, by rw [hst, hgen]; rfl, by rw [hans, hansl], ?_⟩
        rw [hst, hstl]
        simp

end Usable

/-! ## What issuing does -/

section Settled

variable {s : Store (IssuedCode α)} {j : Nat} {x : Entry (IssuedCode α)}

private theorem CollidesBefore.of_maybeSweep (h : CollidesBefore gen (s.maybeSweep c).state c.now j) :
    CollidesBefore gen s c.now j := by
  intro i hi
  obtain ⟨code, hdraw, hlive⟩ := h i hi
  exact ⟨code, hdraw, by rwa [Store.liveUnder_maybeSweep] at hlive⟩

private theorem keepsDrawn_maybeSweep (hk : s.KeysUnique) (h : CollidesBefore gen s c.now j) :
    KeepsDrawn gen s (s.maybeSweep c).state j := by
  intro i hi code hdraw
  obtain ⟨code', hdraw', hlive⟩ := h i hi
  have hcode : code = code' := by simpa [hdraw] using hdraw'
  subst hcode
  exact hk.find?_maybeSweep hlive

theorem KeepsDrawn.insert {s' : Store (IssuedCode α)} {t : Instant} (h : KeepsDrawn gen s s' j)
    (hcoll : CollidesBefore gen s t j) (hfree : s.liveUnder t x.key = none) :
    KeepsDrawn gen s (s'.insert x) j := by
  intro i hi code hdraw
  obtain ⟨code', hdraw', hlive⟩ := hcoll i hi
  have hcode : code = code' := by simpa [hdraw] using hdraw'
  subst hcode
  have hne : x.key ≠ code := by
    rintro rfl
    simp [hfree] at hlive
  rw [Store.find?_insert_of_ne hne]
  exact h i hi code hdraw

end Settled

/-- How issuing a code for `a` with ttl `d` at `c` ends, read off the generator's draws. -/
structure IssueEnds (cache : CodeCache α) (c : Clock) (a : Grant α) (d : Int)
    (out : Outcome (CodeCache α) (Except AppError String)) : Prop where
  unusable : d ≤ 0 ∨ Instant.maxMs < c.now.ms + d →
    out.state.generator = cache.generator.after 1 ∧
      ((∃ err, cache.generator.answerAfter 0 = .error err ∧ out.answer = .error err ∧
          out.state.store = cache.store) ∨
        (∃ code, cache.generator.answerAfter 0 = .ok code ∧
          out.answer = .error (if d ≤ 0 then InsertError.expiresImmediately code d
            else .outOfRange code d).toAppError ∧
          out.state.store = (cache.store.maybeSweep c).state))
  usable : 0 < d → c.now.ms + d ≤ Instant.maxMs →
    (∃ j ≤ cache.retries, CollidesBefore cache.generator cache.store c.now j ∧
      KeepsDrawn cache.generator cache.store out.state.store j ∧
      out.state.generator = cache.generator.after (j + 1) ∧
      ((∃ err, cache.generator.answerAfter j = .error err ∧ out.answer = .error err ∧
          out.state.store = if j = 0 then cache.store else (cache.store.maybeSweep c).state) ∨
        (∃ code exp, cache.generator.answerAfter j = .ok code ∧
          cache.store.liveUnder c.now code = none ∧ exp.ms = c.now.ms + d ∧
          out.answer = .ok code ∧
          out.state.store = (cache.store.maybeSweep c).state.insert
            ⟨code, ⟨code, a.user, a.client, a⟩, c.now, exp⟩))) ∨
    (CollidesBefore cache.generator cache.store c.now (cache.retries + 1) ∧
      KeepsDrawn cache.generator cache.store out.state.store (cache.retries + 1) ∧
      out.state.generator = cache.generator.after (cache.retries + 1) ∧
      out.answer = .error (.illegalState "Unable to generate a unique authorization code") ∧
      out.state.store = (cache.store.maybeSweep c).state)

/-- The retry loop of issuing. From any store with one entry per key, issuing a code for `a` with
ttl `d` draws at most one candidate more than the retry bound. With a ttl that gives no expiry
instant it draws exactly one and answers that draw's failure or the ttl's illegal state. Otherwise
it is settled by its first draw that fails, whose error it answers, or that gives a code no entry
holds live, which it answers and stores for `a` until `d` after the clock's instant, in place of
any expired entry; the codes drawn before were all held live, and their entries stay as they
were; if every allowed draw collides it fails as an illegal state. A failure leaves the store as
the first conditional write's sweep left it, or untouched when the first draw failed. -/
theorem issue_retry_loop {cache : CodeCache α} (hk : cache.store.KeysUnique) (c : Clock)
    (a : Grant α) (d : Int) : IssueEnds cache c a d (cache.issueWithTtl c a d) where
  unusable hd := issueAttempts_of_unusable_ttl hd
  usable hd hmax := by
    unfold issueWithTtl
    have hrun := issueAttempts_of_usable_ttl (g := a) hd hmax
      (Store.maybeSweep_maybeSweep cache.store c)
      (cache.retries + 1) 0 "" cache hk rfl
    have hkS := hk.maybeSweep c
    rcases hrun with ⟨j, hj, hcoll, hgen, hend⟩ | ⟨hcoll, hgen, hans, hst⟩
    · have hcoll₀ := hcoll.of_maybeSweep
      refine .inl ⟨j, by omega, hcoll₀, ?_, hgen, ?_⟩
      · rcases hend with ⟨err, -, -, hst⟩ | ⟨code, exp, -, hfree, -, -, hst⟩
        · rw [hst]
          split
          · intro i hi; omega
          · exact keepsDrawn_maybeSweep hk hcoll₀
        · rw [hst]
          exact (keepsDrawn_maybeSweep hk hcoll₀).insert hcoll₀
            (by rwa [Store.liveUnder_maybeSweep] at hfree)
      · rcases hend with ⟨err, hdraw, hans, hst⟩ | ⟨code, exp, hdraw, hfree, hms, hans, hst⟩
        · exact .inl ⟨err, hdraw, hans, hst⟩
        · refine .inr ⟨code, exp, hdraw, by rwa [Store.liveUnder_maybeSweep] at hfree, hms, hans,
            hst⟩
    · have hcoll₀ := hcoll.of_maybeSweep
      have hst' : (issueAttempts c a d 0 (IssuedCode.ofGrant "" a) (cache.retries + 1) cache).state.store =
          (cache.store.maybeSweep c).state := by
        simpa using hst
      refine .inr ⟨hcoll₀, ?_, hgen, hans, hst'⟩
      rw [hst']
      exact keepsDrawn_maybeSweep hk hcoll₀

private def codesHoldingAbc : CodeCache Unit where
  store :=
    { name := CodeCache.name
      gate := ⟨3000, 0, by decide⟩
      entries := [⟨"abc", ⟨"abc", none, "app", ⟨none, "app", ()⟩⟩, Instant.epoch,
        ⟨3500, by decide, by decide⟩⟩] }
  generator := .scripted [.code "abc", .code "xyz"]
  ttl := 3000
  retries := 1

theorem issue_retries_past_live_code :
    codesHoldingAbc.store.KeysUnique ∧
      IssueEnds codesHoldingAbc ⟨500⟩ ⟨some "ann", "app", ()⟩ 1000
        (codesHoldingAbc.issueWithTtl ⟨500⟩ ⟨some "ann", "app", ()⟩ 1000) :=
  ⟨by decide, issue_retry_loop (by decide) _ _ _⟩

end CodeCache

end CredentialCache
