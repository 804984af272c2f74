import CredentialCache.Proofs.Code.Attempts
import CredentialCache.Proofs.Token.Calls
import CredentialCache.Proofs.Store.LiveView
/-!
# Well-formed stores

Every store reachable from an empty one holds at most one entry per key, and each entry expires
strictly after the instant it was stored, whatever the calls, failed ones included, and however
the clock moves: a write refuses an expiry that is not after the clock's instant. A code cache
files every code under itself with its grant's user and client, since issuing builds the stored
code from the candidate and the grant. A token cache files every token under its own id and lets
the entry expire exactly when the token does, since writes store the stamped token until its own
expiry instant; so a token and its entry agree on expiry at every instant.
-/

namespace CredentialCache

namespace Store

variable {α : Type} {s : Store α}

/-- At most one entry per key, and each entry expires after the instant it was stored. -/
structure WellFormed (s : Store α) : Prop where
  keysUnique : s.KeysUnique
  created_lt : ∀ e ∈ s.entries, e.created.ms < e.expires.ms

private theorem wellFormed_of_entries_eq_nil (h : s.entries = []) : s.WellFormed where
  keysUnique := by simp [KeysUnique, h]
  created_lt := by simp [h]

theorem WellFormed.perform (h : s.WellFormed) (c : Clock) (call : StoreCall α) :
    (s.perform c call).state.WellFormed where
  keysUnique := h.keysUnique.perform c call
  created_lt e he := by
    rcases mem_perform he with ⟨he, -⟩ | hst
    · exact h.created_lt e he
    · rw [hst.created]
      exact hst.live

theorem WellFormed.final (h : s.WellFormed) (calls : List (Clock × StoreCall α)) :
    (Run.final step s calls).WellFormed := by
  induction calls generalizing s with
  | nil => exact h
  | cons x calls ih => exact ih (h.perform x.1 x.2)

private theorem WellFormed.find?_eq_some (h : s.WellFormed) {k : String} {e : Entry α}
    (hf : s.find? k = some e) : e ∈ s.entries ∧ e.key = k ∧ e.created.ms < e.expires.ms := by
  obtain ⟨he, hk⟩ := h.keysUnique.find?_eq_some_iff.1 hf
  exact ⟨he, hk, h.created_lt e he⟩

end Store

namespace CodeCache

variable {α : Type} {s : Store (IssuedCode α)}

/-- Every stored code is filed under itself and carries its grant's user and client. -/
def CodesFiled (s : Store (IssuedCode α)) : Prop :=
  ∀ e ∈ s.entries, e.value.code = e.key ∧ e.value.user = e.value.grant.user ∧
    e.value.client = e.value.grant.client

theorem CodesFiled.perform (h : CodesFiled s) {c : Clock} {call : StoreCall (IssuedCode α)}
    (hcall : call.FilesCodes c.now) : CodesFiled (s.perform c call).state := by
  intro e he
  rcases Store.mem_perform he with ⟨he, -⟩ | hst
  · exact h e he
  · obtain ⟨g, hg⟩ := hcall e hst
    rw [hg]
    exact ⟨rfl, rfl, rfl⟩

end CodeCache

namespace TokenCache

variable {α : Type} {s : Store (RevocableToken α)}

/-- Every stored token is filed under its own id and expires with its entry. -/
def TokensFiled (s : Store (RevocableToken α)) : Prop :=
  ∀ e ∈ s.entries, e.value.tokenId = e.key ∧ e.value.expires = e.expires

theorem TokensFiled.perform (h : TokensFiled s) (zones : ZoneResolver) (c : Clock)
    (call : TokenCall α) : TokensFiled (s.perform c (call.onStore zones)).state := by
  intro e he
  rcases Store.mem_perform he with ⟨he, -⟩ | hst
  · exact h e he
  -- Only the two writes store anything, and each stores the stamped token until its expiry.
  · cases call with
    | create scopes t =>
      obtain ⟨rfl, -⟩ := hst
      exact ⟨rfl, rfl⟩
    | update scopes id t =>
      obtain ⟨rfl, -⟩ := hst
      exact ⟨rfl, rfl⟩
    | retrieveChecked id check => cases check <;> exact hst.elim
    | _ => exact hst.elim

private theorem isExpiredAt_value {e : Entry (RevocableToken α)} (h : e.value.expires = e.expires)
    (now : Instant) : e.value.isExpiredAt now = e.isExpiredAt now := by
  simp [RevocableToken.isExpiredAt, Entry.isExpiredAt, h]

end TokenCache

variable {α β γ : Type}

/-- Representation invariant. In every store reached from an empty one by any calls, failed ones
included, at any clock readings, at most one entry is stored per key, and the entry found under a
key is filed under it and expires after the instant it was stored. In a code cache each code is
moreover filed under itself with its grant's user and client; in a token cache each token is filed
under its own id and expires with its entry, so the two agree on expiry at every instant. -/
theorem stored_entries_well_formed :
    (∀ (s : Store α) (calls : List (Clock × StoreCall α)), s.entries = [] →
      (Run.final Store.step s calls).KeysUnique ∧
        ∀ k e, (Run.final Store.step s calls).find? k = some e →
          e.key = k ∧ e.created.ms < e.expires.ms) ∧
    (∀ (cache : CodeCache β) (calls : List (Clock × CodeCall β)), cache.store.entries = [] →
      (Run.final CodeCache.step cache calls).store.KeysUnique ∧
        ∀ k e, (Run.final CodeCache.step cache calls).store.find? k = some e →
          e.key = k ∧ e.created.ms < e.expires.ms ∧ e.value.code = k ∧
            e.value.user = e.value.grant.user ∧ e.value.client = e.value.grant.client) ∧
    ∀ (cache : TokenCache γ) (calls : List (Clock × TokenCall γ)), cache.store.entries = [] →
      (Run.final TokenCache.step cache calls).store.KeysUnique ∧
        ∀ k e, (Run.final TokenCache.step cache calls).store.find? k = some e →
          e.key = k ∧ e.created.ms < e.expires.ms ∧ e.value.tokenId = k ∧
            e.value.expires = e.expires ∧ ∀ now, e.value.isExpiredAt now = e.isExpiredAt now := by
  refine ⟨?_, ?_, ?_⟩
  · intro s calls hs
    have hwf := (Store.wellFormed_of_entries_eq_nil hs).final calls
    exact ⟨hwf.keysUnique, fun k e hf => (hwf.find?_eq_some hf).2⟩
  · intro cache calls hs
    have h := CodeCache.final_store (fun s => s.WellFormed ∧ CodeCache.CodesFiled s)
      (fun c _ _ hcall h => ⟨h.1.perform _ _, h.2.perform hcall⟩)
      ⟨Store.wellFormed_of_entries_eq_nil hs, by simp [CodeCache.CodesFiled, hs]⟩ calls
    refine ⟨h.1.keysUnique, fun k e hf => ?_⟩
    obtain ⟨he, rfl, hlt⟩ := h.1.find?_eq_some hf
    exact ⟨rfl, hlt, h.2 e he⟩
  · intro cache calls hs
    have h := TokenCache.final_store (fun s => s.WellFormed ∧ TokenCache.TokensFiled s) cache.zones
      (fun c _ call h => ⟨h.1.perform _ _, h.2.perform _ c call⟩) rfl
      ⟨Store.wellFormed_of_entries_eq_nil hs, by simp [TokenCache.TokensFiled, hs]⟩ calls
    refine ⟨h.1.keysUnique, fun k e hf => ?_⟩
    obtain ⟨he, rfl, hlt⟩ := h.1.find?_eq_some hf
    obtain ⟨hid, hexp⟩ := h.2 e he
    exact ⟨rfl, hlt, hid, hexp, TokenCache.isExpiredAt_value hexp⟩

private def sweptEvery2500 : Store Nat := { name := "w", gate := ⟨2500, 0, by decide⟩ }

private def failingWrites : List (Clock × StoreCall Nat) :=
  [(⟨0⟩, .put "a" 1 100), (⟨10⟩, .put "a" 2 0), (⟨20⟩, .putIfAbsent "a" 3 50)]

private def codesEvery20s : CodeCache Unit :=
  { store := { name := CodeCache.name, gate := ⟨20000, 0, by decide⟩ },
    generator := .scripted [.code "abc"], ttl := 20000 }

private def tokensEvery10s : TokenCache Unit :=
  { store := { name := TokenCache.name, gate := ⟨10000, 0, by decide⟩ }, zones := .fixed ⟨"z"⟩ }

private def tokenUntil7s : RevocableToken Unit :=
  { tokenId := "t1", userId := "ann", clientId := "app", kind := .access, issued := Instant.epoch,
    expires := ⟨7000, by decide, by decide⟩, value := () }

theorem entries_well_formed_after_failed_writes :
    sweptEvery2500.entries = [] ∧
      ((Run.final Store.step sweptEvery2500 failingWrites).KeysUnique ∧
        ∀ k e, (Run.final Store.step sweptEvery2500 failingWrites).find? k = some e →
          e.key = k ∧ e.created.ms < e.expires.ms) ∧
    codesEvery20s.store.entries = [] ∧
      ((Run.final CodeCache.step codesEvery20s [(⟨0⟩, .issue ⟨some "ann", "app", ()⟩)]).store.KeysUnique ∧
        ∀ k e, (Run.final CodeCache.step codesEvery20s
            [(⟨0⟩, .issue ⟨some "ann", "app", ()⟩)]).store.find? k = some e →
          e.key = k ∧ e.created.ms < e.expires.ms ∧ e.value.code = k ∧
            e.value.user = e.value.grant.user ∧ e.value.client = e.value.grant.client) ∧
    tokensEvery10s.store.entries = [] ∧
      ((Run.final TokenCache.step tokensEvery10s [(⟨0⟩, .update [] "t9" tokenUntil7s)]).store.KeysUnique ∧
        ∀ k e, (Run.final TokenCache.step tokensEvery10s
            [(⟨0⟩, .update [] "t9" tokenUntil7s)]).store.find? k = some e →
          e.key = k ∧ e.created.ms < e.expires.ms ∧ e.value.tokenId = k ∧
            e.value.expires = e.expires ∧ ∀ now, e.value.isExpiredAt now = e.isExpiredAt now) :=
  ⟨rfl, (@stored_entries_well_formed Nat Unit Unit).1 _ _ rfl,
    rfl, (@stored_entries_well_formed Nat Unit Unit).2.1 _ _ rfl,
    rfl, (@stored_entries_well_formed Nat Unit Unit).2.2 _ _ rfl⟩

end CredentialCache
