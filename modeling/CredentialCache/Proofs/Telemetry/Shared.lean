import CredentialCache.Proofs.Telemetry.Metrics
import CredentialCache.Stores
/-!
# One set of counters for both caches

The stores of an application take code-cache and token-cache calls in any order, each acting on
its own cache, and report into one set of counters. The code cache's part of such a run is a run
of the code cache on the code calls alone, and likewise for tokens; the counters of the whole run
are, series by series, the sum of the counters of the two parts. Two caches under different names
report on disjoint series, so the shared counters count each part exactly as the part's own
counters would. Stores built from a configuration are such a pair, with no sweep run yet.
-/

namespace CredentialCache

/-- A call to the stores: one to the code cache or one to the token cache. -/
inductive StoresCall (α β : Type)
  | codes (call : CodeCall α)
  | tokens (call : TokenCall β)

inductive StoresReply (α β : Type)
  | codes (r : CodeReply α)
  | tokens (r : TokenReply β)

private theorem CodeCache.not_reportsOn_token {name name' : String} (h : name ≠ name') {x : Series}
    (hx : CodeCache.ReportsOn name x) : ¬TokenCache.ReportsOn name' x := by
  rcases hx with rfl | rfl | rfl | rfl | ⟨r, rfl⟩ <;>
    simp [TokenCache.ReportsOn, Series.sweeps, Series.sweptEntries, Series.codesIssued,
      Series.codesRedeemed, Series.codesRejected, Series.tokensCreated, Series.tokensDeleted, h]

private theorem Store.name_of_empty_eq_ok {α : Type} {s : Store α} {name : String} {I : Int}
    (h : Store.empty name I = .ok s) : s.name = name := by
  unfold Store.empty at h
  cases hg : SweepGate.create I with
  | error err => simp [hg, Except.map] at h
  | ok g =>
    simp only [hg, Except.map, Except.ok.injEq] at h
    subst h
    rfl

private theorem CodeCache.withTtl_store {α : Type} {ttl : Int} {gen : CodeGenerator} {cache : CodeCache α}
    (h : CodeCache.withTtl ttl gen = .ok cache) : Store.empty CodeCache.name ttl = .ok cache.store := by
  unfold CodeCache.withTtl at h
  split at h
  · simp at h
  · cases he : Store.empty (α := IssuedCode α) CodeCache.name ttl <;>
      simp only [he, bind, Except.bind, pure, Except.pure, Except.ok.injEq, reduceCtorEq] at h
    subst h
    rfl

theorem CodeCache.ofSettings_store {α : Type} {settings : CodeSettings} {seed : Seed}
    {cache : CodeCache α} (h : CodeCache.ofSettings settings seed = .ok cache) :
    ∃ I, Store.empty CodeCache.name I = .ok cache.store := by
  unfold CodeCache.ofSettings at h
  cases ht : settings.ttl <;> cases hg : CodeGenerator.randomOfLength settings.codeLength seed <;>
    simp only [ht, hg, bind, Except.bind, pure, Except.pure, reduceCtorEq] at h
  rename_i ttl gen
  -- Only the retry bound is set after the cache is made, so its store is the one made.
  cases hw : CodeCache.withTtl (α := α) ttl gen <;> simp only [hw, Except.ok.injEq, reduceCtorEq] at h
  subst h
  have hs := CodeCache.withTtl_store hw
  exact ⟨ttl, hs⟩

theorem TokenCache.ofSettings_store {α : Type} {settings : TokenSettings} {zones : ZoneResolver}
    {cache : TokenCache α} (h : TokenCache.ofSettings settings zones = .ok cache) :
    ∃ I, Store.empty TokenCache.name I = .ok cache.store := by
  unfold TokenCache.ofSettings TokenCache.withInterval at h
  split at h
  · rename_i I _
    cases he : Store.empty (α := RevocableToken α) TokenCache.name I <;>
      simp only [he, bind, Except.bind, pure, Except.pure, Except.ok.injEq, reduceCtorEq] at h
    subst h
    exact ⟨I, he⟩
  · simp at h

namespace Stores

variable {α β : Type}

def perform (s : Stores α β) (c : Clock) : StoresCall α β → Outcome (Stores α β) (StoresReply α β)
  | .codes call => (s.onCodes (·.perform c call)).mapAnswer .codes
  | .tokens call => (s.onTokens (·.perform c call)).mapAnswer .tokens

def step (s : Stores α β) (call : Clock × StoresCall α β) : Outcome (Stores α β) (StoresReply α β) :=
  s.perform call.1 call.2

def codeCalls : List (Clock × StoresCall α β) → List (Clock × CodeCall α)
  | [] => []
  | (c, .codes call) :: calls => (c, call) :: codeCalls calls
  | (_, .tokens _) :: calls => codeCalls calls

def tokenCalls : List (Clock × StoresCall α β) → List (Clock × TokenCall β)
  | [] => []
  | (_, .codes _) :: calls => tokenCalls calls
  | (c, .tokens call) :: calls => (c, call) :: tokenCalls calls

@[simp] theorem step_codes_state (s : Stores α β) (c : Clock) (call : CodeCall α) :
    (step s (c, .codes call)).state = { s with codes := (CodeCache.step s.codes (c, call)).state } :=
  rfl

@[simp] theorem step_codes_events (s : Stores α β) (c : Clock) (call : CodeCall α) :
    (step s (c, .codes call)).events = (CodeCache.step s.codes (c, call)).events := rfl

@[simp] theorem step_tokens_state (s : Stores α β) (c : Clock) (call : TokenCall β) :
    (step s (c, .tokens call)).state = { s with tokens := (TokenCache.step s.tokens (c, call)).state } :=
  rfl

@[simp] theorem step_tokens_events (s : Stores α β) (c : Clock) (call : TokenCall β) :
    (step s (c, .tokens call)).events = (TokenCache.step s.tokens (c, call)).events := rfl

private theorem final_codes (s : Stores α β) (calls : List (Clock × StoresCall α β)) :
    (Run.final step s calls).codes = Run.final CodeCache.step s.codes (codeCalls calls) := by
  induction calls generalizing s with
  | nil => rfl
  | cons x calls ih =>
    obtain ⟨c, call | call⟩ := x
    · rw [Run.final_cons, ih]
      rfl
    · rw [Run.final_cons, ih]
      rfl

private theorem final_tokens (s : Stores α β) (calls : List (Clock × StoresCall α β)) :
    (Run.final step s calls).tokens = Run.final TokenCache.step s.tokens (tokenCalls calls) := by
  induction calls generalizing s with
  | nil => rfl
  | cons x calls ih =>
    obtain ⟨c, call | call⟩ := x
    · rw [Run.final_cons, ih]
      rfl
    · rw [Run.final_cons, ih]
      rfl

/-- Each series of the counters of a run of the stores is what the code calls and the token calls,
each run on its own cache, add to it. -/
theorem metrics_value (s : Stores α β) (calls : List (Clock × StoresCall α β)) (x : Series) :
    (Run.metrics step s calls).value x =
      (Run.metrics CodeCache.step s.codes (codeCalls calls)).value x +
        (Run.metrics TokenCache.step s.tokens (tokenCalls calls)).value x := by
  simp only [Run.metrics_value]
  -- Each call adds its own cache's gain and leaves the other cache as it was.
  induction calls generalizing s with
  | nil => rfl
  | cons y calls ih =>
    obtain ⟨c, call | call⟩ := y
    · simp only [Run.total, codeCalls, tokenCalls, step_codes_events, step_codes_state, ih]
      omega
    · simp only [Run.total, codeCalls, tokenCalls, step_tokens_events, step_tokens_state, ih]
      omega

/-- Counters recorded from the start of a run of stores whose caches report under different names
count the code calls as a run of the code cache and the token calls as a run of the token cache. -/
theorem countedBy_metrics (s : Stores α β) (calls : List (Clock × StoresCall α β))
    (h : s.codes.store.name ≠ s.tokens.store.name) :
    s.codes.CountedBy (codeCalls calls) (Run.metrics step s calls) ∧
      s.tokens.CountedBy (tokenCalls calls) (Run.metrics step s calls) := by
  constructor
  · refine (CodeCache.countedBy_metrics _ _).congr fun x hx => ?_
    rw [metrics_value, TokenCache.metrics_value_eq_zero _ _ (CodeCache.not_reportsOn_token h hx),
      Nat.add_zero]
  · refine (TokenCache.countedBy_metrics _ _).congr fun x hx => ?_
    rw [metrics_value,
      CodeCache.metrics_value_eq_zero _ _ fun hc => CodeCache.not_reportsOn_token h hc hx,
      Nat.zero_add]

private theorem build_stores {config : AppConfig} {zones : ZoneResolver} {seed : Seed} {s : Stores α β}
    (h : build config zones seed = .ok s) :
    (∃ I, Store.empty CodeCache.name I = .ok s.codes.store) ∧
      ∃ I, Store.empty TokenCache.name I = .ok s.tokens.store := by
  unfold build at h
  cases hc : CodeCache.ofSettings (α := α) config.codes seed <;>
    cases ht : TokenCache.ofSettings (α := β) config.tokens zones <;>
    simp only [hc, ht, bind, Except.bind, pure, Except.pure, Except.ok.injEq, reduceCtorEq] at h
  subst h
  exact ⟨CodeCache.ofSettings_store hc, TokenCache.ofSettings_store ht⟩

end Stores

variable {α β : Type}

/-- Counters track the operations. Counters recorded from the start of a run of a code cache count
its sweeps, what they removed, its issued and redeemed codes and its refused redemptions by
reason; those of a token cache count its sweeps, what they removed, its created tokens and its
deleted tokens by reason. Built stores share one set of counters between their two caches, and the
shared counters count each cache's calls exactly as that cache's own counters would, with each
cache's sweep series at the number of sweeps its store has run. -/
theorem metrics_track_operations :
    (∀ (cache : CodeCache α) calls, cache.CountedBy calls (Run.metrics CodeCache.step cache calls)) ∧
    (∀ (cache : TokenCache β) calls, cache.CountedBy calls (Run.metrics TokenCache.step cache calls)) ∧
    ∀ config zones seed (s : Stores α β) calls, Stores.build config zones seed = .ok s →
      s.codes.CountedBy (Stores.codeCalls calls) (Run.metrics Stores.step s calls) ∧
      s.tokens.CountedBy (Stores.tokenCalls calls) (Run.metrics Stores.step s calls) ∧
      (Run.metrics Stores.step s calls).value (.sweeps CodeCache.name) =
        (Run.final Stores.step s calls).codes.store.sweeps ∧
      (Run.metrics Stores.step s calls).value (.sweeps TokenCache.name) =
        (Run.final Stores.step s calls).tokens.store.sweeps := by
  refine ⟨CodeCache.countedBy_metrics, TokenCache.countedBy_metrics, ?_⟩
  intro config zones seed s calls hs
  obtain ⟨⟨I, hc⟩, ⟨J, ht⟩⟩ := Stores.build_stores hs
  have hcn := Store.name_of_empty_eq_ok hc
  have htn := Store.name_of_empty_eq_ok ht
  have hne : s.codes.store.name ≠ s.tokens.store.name := by
    rw [hcn, htn]
    decide
  obtain ⟨hcodes, htokens⟩ := Stores.countedBy_metrics s calls hne
  -- A fresh store has run no sweep, so each sweep series reads the final sweep count.
  have hcs := hcodes.sweeps
  have hts := htokens.sweeps
  rw [(Store.empty_eq_ok hc).2.2, hcn, ← Stores.final_codes] at hcs
  rw [(Store.empty_eq_ok ht).2.2, htn, ← Stores.final_tokens] at hts
  exact ⟨hcodes, htokens, hcs, hts⟩

private def mixedCalls : List (Clock × StoresCall Unit Unit) :=
  [(⟨0⟩, .codes (.issue ⟨some "ann", "app", ()⟩)),
   (⟨3600000⟩, .tokens .sweep),
   (⟨7200000⟩, .codes .sweep),
   (⟨10800000⟩, .codes (.redeem "abc"))]

theorem default_stores_count_mixed_calls :
    ∃ s : Stores Unit Unit, Stores.build {} ZoneResolver.standard ⟨7⟩ = .ok s ∧
      (s.codes.CountedBy (Stores.codeCalls mixedCalls) (Run.metrics Stores.step s mixedCalls) ∧
      s.tokens.CountedBy (Stores.tokenCalls mixedCalls) (Run.metrics Stores.step s mixedCalls) ∧
      (Run.metrics Stores.step s mixedCalls).value (.sweeps CodeCache.name) =
        (Run.final Stores.step s mixedCalls).codes.store.sweeps ∧
      (Run.metrics Stores.step s mixedCalls).value (.sweeps TokenCache.name) =
        (Run.final Stores.step s mixedCalls).tokens.store.sweeps) :=
  ⟨_, rfl, (@metrics_track_operations Unit Unit).2.2 {} ZoneResolver.standard ⟨7⟩ _ mixedCalls rfl⟩

end CredentialCache
