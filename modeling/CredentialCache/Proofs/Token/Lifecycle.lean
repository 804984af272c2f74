import CredentialCache.Proofs.Code.Lifetime
import CredentialCache.Proofs.Token.Calls
/-!
# The lifecycle of a stored token

Once a write answers a token, the store holds that token's entry, stamped with the zone current
at the write, and nothing else under its id. A call that neither stores under the id, nor deletes
it, nor bulk-deletes in a way that takes the token while it is live keeps that entry while it is
live: sweeps drop only expired entries, and a checked read removes only an expired one. So with a
clock that never goes back, a checked read of the id answers the token before its expiry instant
and not-found from that instant on; and once such a read has answered not-found nothing is left
under the id, so an unchecked read finds nothing and a deletion hands nothing back.
-/

namespace CredentialCache

namespace StoreCall

variable {α : Type} {call : StoreCall α} {e x : Entry α} {now now' : Instant}

/-- Whether a call may overwrite or remove the entry `e` at the instant `now`: a write or a
removal under its key, a consuming read of its key, or a bulk removal whose test takes it (for a
removal of live entries, only while `e` is live). -/
def Disturbs (e : Entry α) (now : Instant) : StoreCall α → Prop
  | .put k _ _ | .putUntil k _ _ | .putIfAbsent k _ _ | .take k | .remove k => k = e.key
  | .lookup k consume => consume = true ∧ k = e.key
  | .removeWhere p => p e = true
  | .removeLiveWhere p => now.ms < e.expires.ms ∧ p e.value = true
  | _ => False

private theorem Stores.key_ne (hst : call.Stores now x) (hd : ¬ call.Disturbs e now') : x.key ≠ e.key := by
  cases call with
  | put k v ttl => rw [hst.1]; exact hd
  | putIfAbsent k v ttl => rw [hst.1]; exact hd
  | putUntil k v y => rw [hst.1]; exact hd
  | _ => exact hst.elim

end StoreCall

namespace Store

variable {α : Type} {s : Store α} {e : Entry α} {t : Instant} {c : Clock} {k : String}

theorem Keeps.erase (h : s.Keeps e t) (hk : k ≠ e.key) : (s.erase k).Keeps e t where
  only y hy hykey := h.only y (mem_erase.1 hy).1 hykey
  live hlive := mem_erase.2 ⟨h.live hlive, fun h' => hk h'.symm⟩

private theorem Keeps.erase_of_expired (h : s.Keeps e t) (hexp : e.expires.ms ≤ t.ms) (k : String) :
    (s.erase k).Keeps e t where
  only y hy hykey := h.only y (mem_erase.1 hy).1 hykey
  live hlive := absurd hlive (by omega)

theorem Keeps.filter (h : s.Keeps e t) {p : Entry α → Bool}
    (hp : t.ms < e.expires.ms → p e = true) :
    ({ s with entries := s.entries.filter p } : Store α).Keeps e t where
  only y hy hykey := h.only y (List.mem_filter.1 hy).1 hykey
  live hlive := List.mem_filter.2 ⟨h.live hlive, hp hlive⟩

private theorem Keeps.eq_of_find? (h : s.Keeps e t) {y : Entry α} (hf : s.find? e.key = some y) : y = e :=
  h.only y (List.mem_of_find?_eq_some hf) (by simpa using List.find?_some hf)

theorem Keeps.perform (h : s.Keeps e t) (ht : t.ms ≤ c.now.ms) {call : StoreCall α}
    (hd : ¬ call.Disturbs e c.now) : (s.perform c call).state.Keeps e c.now := by
  have hsw : (s.maybeSweep c).state.Keeps e c.now := h.trimmedAt ht (trimmedAt_maybeSweep s c)
  have hsame : s.Keeps e c.now := h.trimmedAt ht (TrimmedAt.refl c.now s)
  cases call with
  | put k v ttl =>
    simp only [Store.perform, Outcome.state_mapAnswer, put_state]
    cases expiryAfter k c.now ttl with
    | error => exact hsw
    | ok exp => exact hsw.insert hd
  | putUntil k v y =>
    simp only [Store.perform, Outcome.state_mapAnswer, putUntil_state]
    split
    · exact hsw
    · exact hsw.insert hd
  | putIfAbsent k v ttl =>
    simp only [Store.perform, Outcome.state_mapAnswer]
    rcases putIfAbsent_cases s c k v ttl with ⟨-, -, hs⟩ | ⟨-, -, hs⟩ | ⟨exp, -, -, -, -, hs⟩
    · rw [hs]; exact hsw
    · rw [hs]; exact hsw
    · rw [hs]; exact hsw.insert hd
  | take k =>
    simp only [Store.perform, Outcome.state_mapAnswer, take_state]
    cases (s.maybeSweep c).state.find? k
    · exact hsw
    · exact hsw.erase hd
  | lookup k consume =>
    cases consume with
    | true =>
      simp only [Store.perform, Outcome.state_mapAnswer, lookup, ↓reduceIte, take_state]
      cases (s.maybeSweep c).state.find? k
      · exact hsw
      · exact hsw.erase fun hk => hd ⟨rfl, hk⟩
    | false =>
      -- A read removes only an expired entry; under the kept key that is the kept entry.
      simp only [Store.perform, Outcome.state_mapAnswer, lookup, Bool.false_eq_true, ↓reduceIte,
        read_state]
      cases hf : (s.maybeSweep c).state.find? k with
      | none => exact hsw
      | some y =>
        dsimp only
        split
        · rename_i hy
          by_cases hk : k = e.key
          · subst hk
            rw [hsw.eq_of_find? hf] at hy
            exact hsw.erase_of_expired (Entry.isExpiredAt_eq_true.1 hy) e.key
          · exact hsw.erase hk
        · exact hsw
  | remove k => exact hsame.erase hd
  | removeWhere p =>
    change (s.removeWhere p).2.Keeps e c.now
    rw [removeWhere_snd]
    exact hsame.filter fun _ => by simpa [StoreCall.Disturbs] using hd
  | removeLiveWhere p =>
    change (s.removeWhere fun x => x.isLiveAt c.now && p x.value).2.Keeps e c.now
    rw [removeWhere_snd]
    refine hsame.filter fun hlive => ?_
    have hp : p e.value = false := by simpa [StoreCall.Disturbs, hlive] using hd
    simp [hp]
  | sweep => exact h.trimmedAt ht (trimmedAt_sweepAt s c.now)
  | maybeSweep => exact hsw
  | get k => exact hsame
  | liveEntries p => exact hsame
  | collectLive p => exact hsame
  | size => exact hsame

/-- A read of a kept entry's key finds its value while it is live; from its expiry on the read
finds it expired or missing, and leaves nothing under the key. -/
theorem Keeps.read (h : s.Keeps e t) (ht : t.ms ≤ c.now.ms) :
    (c.now.ms < e.expires.ms → (s.read c e.key).answer = .found e.value) ∧
      (e.expires.ms ≤ c.now.ms →
        ((s.read c e.key).answer = .expired ∨ (s.read c e.key).answer = .notFound) ∧
          ∀ x ∈ (s.read c e.key).state.entries, x.key ≠ e.key) := by
  have hsw := h.trimmedAt ht (trimmedAt_maybeSweep s c)
  rw [read_answer, take_answer, read_state]
  rcases hsw.find?_key with hf | ⟨hf, hexp⟩
  · rw [hf]
    refine ⟨fun hlive => ?_, fun hexp => ?_⟩
    · have hne : ¬ e.isExpiredAt c.now = true := by
        rw [Entry.isExpiredAt_eq_true]
        omega
      simp [hne]
    · have hex : e.isExpiredAt c.now = true := Entry.isExpiredAt_eq_true.2 hexp
      simp only [hex, ↓reduceIte, true_or, true_and]
      intro x hx
      exact (mem_erase.1 hx).2
  · rw [hf]
    refine ⟨fun hlive => absurd hlive (by omega), fun _ => ⟨.inr rfl, fun x hx hkey => ?_⟩⟩
    simp only [find?, List.find?_eq_none, beq_iff_eq] at hf
    exact hf x hx hkey

theorem absent_perform (h : ∀ x ∈ s.entries, x.key ≠ k) {call : StoreCall α}
    (hw : ∀ x, call.Stores c.now x → x.key ≠ k) :
    ∀ x ∈ (s.perform c call).state.entries, x.key ≠ k := by
  intro x hx
  rcases mem_perform hx with ⟨hx, -⟩ | hst
  · exact h x hx
  · exact hw x hst

private theorem find?_eq_none_of_absent (h : ∀ x ∈ s.entries, x.key ≠ k) : s.find? k = none := by
  simp only [find?, List.find?_eq_none, beq_iff_eq]
  exact h

end Store

namespace TokenCall

variable {α : Type}

/-- Whether a call removes or overwrites the token `t` at the instant `now`: it stores a token
under `t`'s id, deletes that id, or bulk-deletes in a way that takes `t` while `t` is live. -/
def Disturbs (t : RevocableToken α) (now : Instant) : TokenCall α → Prop
  | .create _ t' => t'.tokenId = t.tokenId
  | .update _ id _ | .delete id => id = t.tokenId
  | .deleteByZone zone => now.ms < t.expires.ms ∧ t.zone = zone
  | .deleteByOrigin origin zone => now.ms < t.expires.ms ∧ t.zone = zone ∧ t.origin = some origin
  | .deleteByUser user zone => now.ms < t.expires.ms ∧ t.zone = zone ∧ t.userId = user
  | .deleteByClient client zone => now.ms < t.expires.ms ∧ t.zone = zone ∧ t.clientId = client
  | _ => False

private theorem not_disturbs_onStore {t : RevocableToken α} {now created : Instant} {call : TokenCall α}
    (zones : ZoneResolver) (hd : ¬ call.Disturbs t now) :
    ¬ (call.onStore zones).Disturbs ⟨t.tokenId, t, created, t.expires⟩ now := by
  cases call with
  | create scopes t' => exact hd
  | update scopes id t' => exact hd
  | delete id => exact hd
  | deleteByZone zone => simpa [onStore, StoreCall.Disturbs, Disturbs] using hd
  | deleteByOrigin origin zone => simpa [onStore, StoreCall.Disturbs, Disturbs, and_assoc] using hd
  | deleteByUser user zone => simpa [onStore, StoreCall.Disturbs, Disturbs, and_assoc] using hd
  | deleteByClient client zone => simpa [onStore, StoreCall.Disturbs, Disturbs, and_assoc] using hd
  | retrieveChecked id check => cases check <;> simp [onStore, StoreCall.Disturbs]
  | retrieve id => simp [onStore, StoreCall.Disturbs]
  | retrieveAll scopes => simp [onStore, StoreCall.Disturbs]
  | userTokens user => simp [onStore, StoreCall.Disturbs]
  | clientTokens client => simp [onStore, StoreCall.Disturbs]
  | userClientTokens user client => simp [onStore, StoreCall.Disturbs]
  | sweep => simp [onStore, StoreCall.Disturbs]

end TokenCall

namespace TokenCache

variable {α : Type} {cache : TokenCache α} {c : Clock} {call : TokenCall α} {id : String}
  {t₁ : RevocableToken α}

def entryOf (t : RevocableToken α) (created : Instant) : Entry (RevocableToken α) :=
  ⟨t.tokenId, t, created, t.expires⟩

private theorem keeps_written {t' : RevocableToken α} (hst : call.stamped cache.zones = some t')
    (hok : (cache.perform c call).answer = .token (.ok t₁)) :
    t₁ = t' ∧ (cache.perform c call).state.store.Keeps (entryOf t₁ c.now) c.now := by
  cases call with
  | create scopes t =>
    cases hst
    by_cases hle : ({ t with zone := cache.zones.current scopes } : RevocableToken α).expires ≤ c.now
    · simp [perform, create, lift, Store.putUntil_answer, currentZone, hle] at hok
    · simp only [perform, create, lift, Store.putUntil_answer, currentZone, hle, ↓reduceIte,
        Outcome.answer_mapAnswer, TokenReply.token.injEq, Except.ok.injEq] at hok
      subst hok
      refine ⟨rfl, ?_⟩
      rw [perform_store]
      simp only [TokenCall.onStore, Store.perform, Outcome.state_mapAnswer, Store.putUntil_state,
        hle, ↓reduceIte]
      exact Store.keeps_insert _ _ c.now
  | update scopes id t =>
    cases hst
    by_cases hle : ({ t with tokenId := id, zone := cache.zones.current scopes } :
        RevocableToken α).expires ≤ c.now
    · simp [perform, update, lift, Store.putUntil_answer, currentZone, hle, Except.map,
        Except.mapError] at hok
    · simp only [perform, update, lift, Store.putUntil_answer, currentZone, hle, ↓reduceIte,
        Outcome.answer_mapAnswer, TokenReply.token.injEq, Except.map, Except.mapError,
        Except.ok.injEq] at hok
      subst hok
      refine ⟨rfl, ?_⟩
      rw [perform_store]
      simp only [TokenCall.onStore, Store.perform, Outcome.state_mapAnswer, Store.putUntil_state,
        hle, ↓reduceIte]
      exact Store.keeps_insert _ _ c.now
  | _ => cases hst

theorem keeps_perform {created t : Instant} (h : cache.store.Keeps (entryOf t₁ created) t)
    (ht : t.ms ≤ c.now.ms) (hd : ¬ call.Disturbs t₁ c.now) :
    (cache.perform c call).state.store.Keeps (entryOf t₁ created) c.now := by
  rw [perform_store]
  exact h.perform ht (TokenCall.not_disturbs_onStore cache.zones hd)

theorem absent_perform (h : ∀ x ∈ cache.store.entries, x.key ≠ t₁.tokenId)
    (hd : ¬ call.Disturbs t₁ c.now) :
    ∀ x ∈ (cache.perform c call).state.store.entries, x.key ≠ t₁.tokenId := by
  rw [perform_store]
  exact Store.absent_perform h fun x hst =>
    hst.key_ne (e := entryOf t₁ c.now) (TokenCall.not_disturbs_onStore cache.zones hd)

private theorem checkedRead_answer (hcall : call = .retrieve id ∨ call = .retrieveChecked id true) :
    (cache.perform c call).answer = .token (match (cache.store.read c id).answer with
      | .found t => .ok t
      | .notFound => .error (notFound id)
      | .expired => .error (.notFound "Token expired.")) := by
  rcases hcall with rfl | rfl <;>
  · simp only [perform, retrieve, retrieveChecked, lift, ↓reduceIte, Outcome.answer_mapAnswer]
    cases (cache.store.read c id).answer <;> rfl

private theorem checkedRead_store (hcall : call = .retrieve id ∨ call = .retrieveChecked id true) :
    (cache.perform c call).state.store = (cache.store.read c id).state := by
  rcases hcall with rfl | rfl <;> rw [perform_store] <;> rfl

/-- A checked read of a kept token answers it while it is live, and not-found from its expiry
on, leaving nothing under its id. -/
private theorem checkedRead_of_keeps {created t : Instant} (h : cache.store.Keeps (entryOf t₁ created) t)
    (ht : t.ms ≤ c.now.ms)
    (hcall : call = .retrieve t₁.tokenId ∨ call = .retrieveChecked t₁.tokenId true) :
    (c.now.ms < t₁.expires.ms → (cache.perform c call).answer = .token (.ok t₁)) ∧
      (t₁.expires.ms ≤ c.now.ms →
        (∃ err, (cache.perform c call).answer = .token (.error err) ∧ err.kind = .notFound) ∧
          ∀ x ∈ (cache.perform c call).state.store.entries, x.key ≠ t₁.tokenId) := by
  obtain ⟨hlive, hdead⟩ := h.read ht
  dsimp only [entryOf] at hlive hdead
  rw [checkedRead_answer hcall, checkedRead_store hcall]
  refine ⟨fun hlt => by rw [hlive hlt], fun hge => ?_⟩
  obtain ⟨hans, hgone⟩ := hdead hge
  refine ⟨?_, hgone⟩
  rcases hans with hans | hans <;> rw [hans] <;> exact ⟨_, rfl, rfl⟩

theorem keeps_run {created t : Instant} (h : cache.store.Keeps (entryOf t₁ created) t)
    (ks : List (Clock × TokenCall α)) (hks : ∀ x ∈ ks, ¬ x.2.Disturbs t₁ x.1.now)
    (hfwd : Clock.Forward t.ms (ks.map (·.1))) :
    (Run.final step cache ks).store.Keeps (entryOf t₁ created) (Clock.lastNow t (ks.map (·.1))) :=
  Run.final_forward step (fun t cache => cache.store.Keeps (entryOf t₁ created) t)
    (fun x => ¬ x.2.Disturbs t₁ x.1.now)
    (fun _ _ x h hd hin ht => keeps_perform h (by rw [Clock.now_of_inRange hin]; exact ht) hd)
    h ks hks hfwd

private theorem absent_run (h : ∀ x ∈ cache.store.entries, x.key ≠ t₁.tokenId)
    (ks : List (Clock × TokenCall α)) (hks : ∀ x ∈ ks, ¬ x.2.Disturbs t₁ x.1.now) :
    ∀ x ∈ (Run.final step cache ks).store.entries, x.key ≠ t₁.tokenId := by
  induction ks generalizing cache with
  | nil => exact h
  | cons k ks ih =>
    rw [List.forall_mem_cons] at hks
    exact ih (absent_perform h hks.1) hks.2

private theorem absent_of_checkedRead_error {created t : Instant}
    (h : cache.store.Keeps (entryOf t₁ created) t) (ks : List (Clock × TokenCall α))
    (hks : ∀ x ∈ ks, ¬ x.2.Disturbs t₁ x.1.now) (hfwd : Clock.Forward t.ms (ks.map (·.1)))
    {w : (Clock × TokenCall α) × TokenReply α} (hw : w ∈ Run.trace step cache ks)
    (hread : w.1.2 = .retrieve t₁.tokenId ∨ w.1.2 = .retrieveChecked t₁.tokenId true)
    (herr : ∃ err, w.2 = .token (.error err)) :
    ∀ x ∈ (Run.final step cache ks).store.entries, x.key ≠ t₁.tokenId := by
  -- Induction along the run: the read is either its first call or a later one.
  induction ks generalizing cache t with
  | nil => simp at hw
  | cons k ks ih =>
    obtain ⟨clk, call⟩ := k
    rw [List.forall_mem_cons] at hks
    simp only [List.map_cons] at hfwd
    obtain ⟨hin, ht, hrest⟩ := hfwd
    have ht' : t.ms ≤ clk.now.ms := by rw [Clock.now_of_inRange hin]; exact ht
    rw [Run.trace_cons, List.mem_cons] at hw
    rcases hw with rfl | hw
    · -- The first call is the read; it answered an error, so the token had expired.
      obtain ⟨hlive, hdead⟩ := checkedRead_of_keeps h ht' hread
      obtain ⟨err, herr⟩ := herr
      change (cache.perform clk call).answer = _ at herr
      have hexp : t₁.expires.ms ≤ clk.now.ms := by
        by_contra hlt
        rw [hlive (by omega)] at herr
        cases herr
      exact absent_run (hdead hexp).2 ks hks.2
    · refine ih (keeps_perform h ht' hks.1) hks.2 ?_ hw
      rw [Clock.now_of_inRange hin]
      exact hrest

private theorem uncheckedRead_of_absent (h : ∀ x ∈ cache.store.entries, x.key ≠ id) :
    (cache.perform c (.retrieveChecked id false)).answer = .token (.error (notFound id)) := by
  simp [perform, retrieveChecked, Store.find?_eq_none_of_absent h]

private theorem delete_of_absent (h : ∀ x ∈ cache.store.entries, x.key ≠ id) :
    (cache.perform c (.delete id)).answer = .deleted none := by
  simp [perform, delete, Store.remove, Store.find?_eq_none_of_absent h]

/-- Revocable-token lifecycle. Let a create or an update answer the token `t₁` at a clock reading
inside the calendar range, and let the clock never go back from there. The token answered is the
one handed in, stamped with the zone current at the call (and, for an update, with the id). Then,
through calls that neither store under `t₁`'s id, nor delete it, nor bulk-delete in a way that
matches `t₁` while it is live, a checked read of the id answers `t₁` before its expiry instant and
not-found from that instant on; and once such a read has answered not-found, an unchecked read of
the id answers not-found and a deletion of it hands nothing back. -/
theorem written_token_lifecycle {clk : Clock} {call : TokenCall α}
    (hwrite : (∃ scopes t, call = .create scopes t) ∨ ∃ scopes id t, call = .update scopes id t)
    (hok : (cache.perform clk call).answer = .token (.ok t₁)) (hin : Instant.InRange clk.reading)
    (post : List (Clock × TokenCall α)) (hfwd : Clock.Forward clk.reading (post.map (·.1))) :
    (∀ scopes t, call = .create scopes t → t₁ = { t with zone := cache.zones.current scopes }) ∧
    (∀ scopes id t, call = .update scopes id t →
      t₁ = { t with tokenId := id, zone := cache.zones.current scopes }) ∧
    ∀ pre y rest, Run.trace step (cache.perform clk call).state post = pre ++ y :: rest →
      (∀ w ∈ pre, ¬ w.1.2.Disturbs t₁ w.1.1.now) →
      ((y.1.2 = .retrieve t₁.tokenId ∨ y.1.2 = .retrieveChecked t₁.tokenId true) →
        (y.1.1.reading < t₁.expires.ms → y.2 = .token (.ok t₁)) ∧
        (t₁.expires.ms ≤ y.1.1.reading →
          ∃ err, y.2 = .token (.error err) ∧ err.kind = .notFound)) ∧
      ((∃ w ∈ pre, (w.1.2 = .retrieve t₁.tokenId ∨ w.1.2 = .retrieveChecked t₁.tokenId true) ∧
          ∃ err, w.2 = .token (.error err) ∧ err.kind = .notFound) →
        (y.1.2 = .retrieveChecked t₁.tokenId false →
          ∃ err, y.2 = .token (.error err) ∧ err.kind = .notFound) ∧
        (y.1.2 = .delete t₁.tokenId → y.2 = .deleted none)) := by
  obtain ⟨t', hst⟩ : ∃ t', call.stamped cache.zones = some t' := by
    rcases hwrite with ⟨scopes, t, rfl⟩ | ⟨scopes, id, t, rfl⟩ <;> exact ⟨_, rfl⟩
  obtain ⟨rfl, hkeeps⟩ := keeps_written hst hok
  refine ⟨fun scopes t hc => ?_, fun scopes id t hc => ?_, ?_⟩
  · subst hc
    exact (Option.some.inj hst).symm
  · subst hc
    exact (Option.some.inj hst).symm
  have hfwd' : Clock.Forward clk.now.ms (post.map (·.1)) := by
    rw [Clock.now_of_inRange hin]
    exact hfwd
  intro pre y rest htr hpre
  obtain ⟨ks₁, htr₁, hans, hfwd₁⟩ := Run.split_forward htr hfwd'
  rw [List.map_append] at hfwd₁
  have hks₁ : ∀ x ∈ ks₁, ¬ x.2.Disturbs t₁ x.1.now := by
    intro x hx
    rw [← Run.map_fst_trace step _ ks₁, htr₁] at hx
    obtain ⟨w, hw, rfl⟩ := List.mem_map.1 hx
    exact hpre w hw
  have hk := keeps_run hkeeps ks₁ hks₁ hfwd₁.of_append
  have hle : (Clock.lastNow clk.now (ks₁.map (·.1))).ms ≤ y.1.1.reading := hfwd₁.lastNow_le
  have hnow : y.1.1.now.ms = y.1.1.reading :=
    Clock.now_of_inRange (hfwd₁.inRange_of_mem y.1.1 (by simp))
  refine ⟨fun hy => ?_, fun ⟨w, hw, hwread, err, hwerr, _⟩ => ?_⟩
  · obtain ⟨hlive, hdead⟩ := checkedRead_of_keeps (c := y.1.1) hk (by omega) hy
    rw [← hans]
    exact ⟨fun hlt => hlive (by omega), fun hge => (hdead (by omega)).1⟩
  · have hgone := absent_of_checkedRead_error hkeeps ks₁ hks₁ hfwd₁.of_append (htr₁ ▸ hw) hwread
      ⟨err, hwerr⟩
    rw [← hans]
    refine ⟨fun hy => ⟨_, by rw [step, hy, uncheckedRead_of_absent hgone], rfl⟩, fun hy => ?_⟩
    rw [step, hy, delete_of_absent hgone]

private def zonedEvery4s : TokenCache Unit :=
  { store := { name := name, gate := ⟨4000, 0, by decide⟩ }, zones := .fixed ⟨"z"⟩ }

private def tokenUntil5500 : RevocableToken Unit :=
  { tokenId := "t1", userId := "ann", clientId := "app", kind := .access, issued := Instant.epoch,
    expires := ⟨5500, by decide, by decide⟩, value := () }

/-- Created at one second, `t1` is stamped with zone `z` and read back at three seconds; read at
six seconds it is not found, and a deletion at 7.5 seconds then hands nothing back. -/
theorem created_token_read_then_gone :
    (zonedEvery4s.perform ⟨1000⟩ (.create [] tokenUntil5500)).answer =
        .token (.ok { tokenUntil5500 with zone := ⟨"z"⟩ }) ∧
      ((zonedEvery4s.perform ⟨1000⟩ (.create [] tokenUntil5500)).state.perform ⟨3000⟩
        (.retrieve "t1")).answer = .token (.ok { tokenUntil5500 with zone := ⟨"z"⟩ }) ∧
      (∃ err, ((zonedEvery4s.perform ⟨1000⟩ (.create [] tokenUntil5500)).state.perform ⟨6000⟩
        (.retrieve "t1")).answer = .token (.error err) ∧ err.kind = .notFound) ∧
      (((zonedEvery4s.perform ⟨1000⟩ (.create [] tokenUntil5500)).state.perform ⟨6000⟩
        (.retrieve "t1")).state.perform ⟨7500⟩ (.delete "t1")).answer = .deleted none := by
  have hok : (zonedEvery4s.perform ⟨1000⟩ (.create [] tokenUntil5500)).answer =
      .token (.ok { tokenUntil5500 with zone := ⟨"z"⟩ }) := by rfl
  have hread := (written_token_lifecycle (.inl ⟨_, _, rfl⟩) hok (by decide)
    [(⟨3000⟩, .retrieve "t1")] (by decide)).2.2 [] _ [] rfl (by simp)
  have hlate := (written_token_lifecycle (.inl ⟨_, _, rfl⟩) hok (by decide)
    [(⟨6000⟩, .retrieve "t1"), (⟨7500⟩, .delete "t1")] (by decide)).2.2
  have hexpired := (hlate [] _ _ rfl (by simp)).1 (.inl rfl)
  have hgone := (hlate [_] _ [] rfl (by simp [TokenCall.Disturbs])).2
    ⟨_, List.mem_singleton_self _, .inl rfl, notFound "t1", rfl, rfl⟩
  exact ⟨hok, hread.1 (.inl rfl) |>.1 (by decide), hexpired.2 (by decide), hgone.2 rfl⟩

end TokenCache

end CredentialCache
