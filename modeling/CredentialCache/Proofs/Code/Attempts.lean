import CredentialCache.Proofs.Store.Frame
import CredentialCache.Proofs.Code.Calls
/-!
# A code cache drives its store by store calls

Every call of a code cache acts on its store as a run of store calls at the call's clock: an issue
makes one conditional write per candidate it draws, a redeem takes its code and a sweep sweeps.
Each of these writes stores an issued code under that same code. So whatever such store calls
keep, every call of a code cache keeps; and an issue whose generator hands it a first candidate
starts with a conditional write, so it consults the gate like a redeem.
-/

namespace CredentialCache

namespace StoreCall

/-- A store call of a code cache: whatever it stores is an issued code filed under that code. -/
def FilesCodes {α : Type} (now : Instant) (call : StoreCall (IssuedCode α)) : Prop :=
  ∀ e, call.Stores now e → ∃ g, e.value = CodeCache.IssuedCode.ofGrant e.key g

end StoreCall

namespace CodeCache

variable {α : Type} {c : Clock}

private theorem filesCodes_putIfAbsent (code : String) (g : Grant α) (ttl : Int) (now : Instant) :
    (StoreCall.putIfAbsent code (IssuedCode.ofGrant code g) ttl).FilesCodes now := by
  rintro e ⟨hkey, hval, -⟩
  exact ⟨g, by rw [hval, hkey]⟩

theorem redeem_store (cache : CodeCache α) (c : Clock) (code : String) :
    (cache.redeem c code).state.store = (cache.store.perform c (.take code)).state := by
  unfold redeem
  dsimp only
  cases (cache.store.take c code).answer <;> rfl

private theorem sweep_store (cache : CodeCache α) (c : Clock) :
    (cache.sweep c).state.store = (cache.store.perform c .sweep).state := rfl

section Transport

variable (P : Store (IssuedCode α) → Prop)

/-- An attempt whose draw gives `code` leaves the store as its conditional write left it, or hands
that store on to the remaining attempts. -/
private theorem issueAttempts_succ_store {g : Grant α} {ttl : Int} {left : Nat} {code : String}
    {gen : CodeGenerator}
    (hrest : ∀ (attempt : UInt32) (x : String) (cache : CodeCache α), P cache.store →
      P (issueAttempts c g ttl attempt (IssuedCode.ofGrant x g) left cache).state.store)
    {attempt : UInt32} {x : String} {cache : CodeCache α}
    (hgen : cache.generator.generate = (.ok code, gen))
    (h : P (cache.store.putIfAbsent c code (IssuedCode.ofGrant code g) ttl).state) :
    P (issueAttempts c g ttl attempt (IssuedCode.ofGrant x g) (left + 1) cache).state.store := by
  cases hans : (cache.store.putIfAbsent c code (IssuedCode.ofGrant code g) ttl).answer with
  | error err => simpa only [issueAttempts, hgen, IssuedCode.ofGrant_withCode, hans] using h
  | ok r =>
    cases r with
    | none => simpa only [issueAttempts, hgen, IssuedCode.ofGrant_withCode, hans] using h
    | some v =>
      rw [issueAttempts_succ_of_collision hgen hans]
      exact hrest _ _ _ h

variable (hP : ∀ s call, StoreCall.FilesCodes c.now call → P s → P (s.perform c call).state)
include hP

/-- Issue attempts keep whatever the store calls of a code cache keep. -/
private theorem issueAttempts_store (g : Grant α) (ttl : Int) :
    ∀ (left : Nat) (attempt : UInt32) (x : String) (cache : CodeCache α), P cache.store →
      P (issueAttempts c g ttl attempt (IssuedCode.ofGrant x g) left cache).state.store := by
  intro left
  induction left with
  | zero => intro attempt x cache h; exact h
  | succ left ih =>
    intro attempt x cache h
    rcases hgen : cache.generator.generate with ⟨res, gen⟩
    cases res with
    | error e => simpa only [issueAttempts, hgen] using h
    | ok code =>
      exact issueAttempts_succ_store P ih hgen (hP _ _ (filesCodes_putIfAbsent code g ttl c.now) h)

theorem issueAttempts_store_of_generate {g : Grant α} {ttl : Int} {attempt : UInt32} {x : String}
    {left : Nat} {cache : CodeCache α} {code : String} {gen : CodeGenerator}
    (hgen : cache.generator.generate = (.ok code, gen))
    (h : P (cache.store.perform c (.putIfAbsent code (IssuedCode.ofGrant code g) ttl)).state) :
    P (issueAttempts c g ttl attempt (IssuedCode.ofGrant x g) (left + 1) cache).state.store :=
  issueAttempts_succ_store P (issueAttempts_store P hP g ttl left) hgen h

theorem perform_store {cache : CodeCache α} (h : P cache.store) (call : CodeCall α) :
    P (cache.perform c call).state.store := by
  rcases perform_cases cache c call with ⟨g, ttl, -, hperf⟩ | ⟨code, -, hperf⟩ | ⟨-, hperf⟩
  · rw [hperf, Outcome.state_mapAnswer]
    exact issueAttempts_store P hP g ttl _ 0 "" cache h
  · rw [hperf, Outcome.state_mapAnswer, redeem_store]
    exact hP _ _ (fun e he => he.elim) h
  · rw [hperf, Outcome.state_mapAnswer, sweep_store]
    exact hP _ _ (fun e he => he.elim) h

end Transport

theorem final_store (P : Store (IssuedCode α) → Prop)
    (hP : ∀ c s call, StoreCall.FilesCodes c.now call → P s → P (s.perform c call).state)
    {cache : CodeCache α} (h : P cache.store) (calls : List (Clock × CodeCall α)) :
    P (Run.final step cache calls).store := by
  induction calls generalizing cache with
  | nil => exact h
  | cons x calls ih => exact ih (perform_store P (hP x.1) h x.2)

end CodeCache

end CredentialCache
