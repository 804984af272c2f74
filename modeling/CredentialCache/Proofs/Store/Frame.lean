import CredentialCache.Proofs.Store.Throttle
/-!
# What a call leaves in a store

A call leaves in a store only entries that were there before it, and at most one entry that it
stored itself, created at the clock's instant and expiring after it. When the call sweeps (an
explicit sweep, or a write or keyed read whose throttled sweep the gate admits) the entries it
kept are also live at the clock's instant. The invariants of stores, codes and tokens are case
analyses over these two shapes.
-/

namespace CredentialCache

namespace StoreCall

variable {α : Type}

/-- The entry a call may store at the instant `now`: a write stores its value under its key,
created at `now` and expiring after it, by its ttl or at its expiry instant. -/
def Stores (now : Instant) (e : Entry α) : StoreCall α → Prop
  | .put k v ttl | .putIfAbsent k v ttl =>
    e.key = k ∧ e.value = v ∧ e.created = now ∧ 0 < ttl ∧ e.expires.ms = now.ms + ttl
  | .putUntil k v x => e = ⟨k, v, now, x⟩ ∧ now.ms < x.ms
  | _ => False

variable {call : StoreCall α} {now : Instant} {e : Entry α}

theorem Stores.created (h : call.Stores now e) : e.created = now := by
  cases call with
  | put k v ttl => exact h.2.2.1
  | putIfAbsent k v ttl => exact h.2.2.1
  | putUntil k v x => rw [h.1]
  | _ => exact h.elim

theorem Stores.live (h : call.Stores now e) : now.ms < e.expires.ms := by
  cases call with
  | put k v ttl | putIfAbsent k v ttl =>
    obtain ⟨-, -, -, httl, hms⟩ := h
    omega
  | putUntil k v x => rw [h.1]; exact h.2
  | _ => exact h.elim

end StoreCall

namespace Store

variable {α : Type} {s : Store α} {c : Clock} {call : StoreCall α} {k : String} {e x : Entry α}

def runsSweep (s : Store α) (c : Clock) (call : StoreCall α) : Bool :=
  call.isSweep || (call.consultsGate && (s.gate.tryAcquire c.reading).isSome)

theorem sweeps_perform (s : Store α) (c : Clock) (call : StoreCall α) :
    (s.perform c call).state.sweeps = s.sweeps + if s.runsSweep c call then 1 else 0 := by
  rw [(perform_gate_sweeps s c call).2, runsSweep]
  cases hc : call.consultsGate
  · cases call.isSweep <;> simp
  · simp [StoreCall.isSweep_eq_false hc]

private theorem mem_insert : e ∈ (s.insert x).entries ↔ e = x ∨ (e ∈ s.entries ∧ e.key ≠ x.key) := by
  simp [entries_insert]

theorem mem_erase : e ∈ (s.erase k).entries ↔ e ∈ s.entries ∧ e.key ≠ k := by
  simp [entries_erase]

private theorem mem_maybeSweep :
    e ∈ (s.maybeSweep c).state.entries ↔
      e ∈ s.entries ∧ ((s.gate.tryAcquire c.reading).isSome → c.now.ms < e.expires.ms) := by
  rcases maybeSweep_cases s c with ⟨h, -, hs⟩ | ⟨g, h, -, hs⟩
  · simp [hs, h]
  · simp [hs, h, mem_liveAt]

private theorem mem_maybeSweep_of_mem_read (he : e ∈ (s.read c k).state.entries) :
    e ∈ (s.maybeSweep c).state.entries := by
  rw [read_state] at he
  cases hf : (s.maybeSweep c).state.find? k with
  | none => simpa [hf] using he
  | some y =>
    rw [hf] at he
    dsimp only at he
    by_cases hy : y.isExpiredAt c.now = true
    · rw [if_pos hy, mem_erase] at he
      exact he.1
    · rwa [if_neg hy] at he

private theorem mem_maybeSweep_of_mem_take (he : e ∈ (s.take c k).state.entries) :
    e ∈ (s.maybeSweep c).state.entries := by
  rw [take_entries] at he
  exact (List.mem_filter.1 he).1

/-- What a call can leave in a store: an entry that was there before it, live at the clock's
instant if the call swept, or the one entry that the call stored. -/
theorem mem_perform (he : e ∈ (s.perform c call).state.entries) :
    (e ∈ s.entries ∧ (s.runsSweep c call → c.now.ms < e.expires.ms)) ∨ call.Stores c.now e := by
  -- An entry that the throttled sweep of a gate-consulting call kept.
  have kept : call.consultsGate = true → e ∈ (s.maybeSweep c).state.entries →
      e ∈ s.entries ∧ (s.runsSweep c call → c.now.ms < e.expires.ms) := by
    intro hc hm
    obtain ⟨hmem, hlive⟩ := mem_maybeSweep.1 hm
    refine ⟨hmem, fun hrun => hlive ?_⟩
    simpa [runsSweep, hc, StoreCall.isSweep_eq_false hc] using hrun
  -- An entry left where a call that neither sweeps nor writes only filtered the store.
  have untouched : s.runsSweep c call = false → e ∈ s.entries →
      e ∈ s.entries ∧ (s.runsSweep c call → c.now.ms < e.expires.ms) :=
    fun hrun hm => ⟨hm, fun h => absurd h (by simp [hrun])⟩
  cases call with
  | put k v ttl =>
    simp only [perform, Outcome.state_mapAnswer, put_state] at he
    cases hexp : expiryAfter k c.now ttl with
    | error => rw [hexp] at he; exact .inl (kept rfl he)
    | ok exp =>
      rw [hexp] at he
      rcases mem_insert.1 he with rfl | ⟨he, -⟩
      · obtain ⟨httl, hms⟩ := expiryAfter_eq_ok_iff.1 hexp
        exact .inr ⟨rfl, rfl, rfl, httl, hms⟩
      · exact .inl (kept rfl he)
  | putUntil k v x =>
    simp only [perform, Outcome.state_mapAnswer, putUntil_state] at he
    by_cases hx : x ≤ c.now
    · rw [if_pos hx] at he; exact .inl (kept rfl he)
    · rw [if_neg hx] at he
      rcases mem_insert.1 he with rfl | ⟨he, -⟩
      · exact .inr ⟨rfl, by simpa using hx⟩
      · exact .inl (kept rfl he)
  | putIfAbsent k v ttl =>
    simp only [perform, Outcome.state_mapAnswer] at he
    rcases putIfAbsent_cases s c k v ttl with ⟨-, -, hs⟩ | ⟨-, -, hs⟩ | ⟨exp, httl, hms, -, -, hs⟩
    · rw [hs] at he; exact .inl (kept rfl he)
    · rw [hs] at he; exact .inl (kept rfl he)
    · rw [hs] at he
      rcases mem_insert.1 he with rfl | ⟨he, -⟩
      · exact .inr ⟨rfl, rfl, rfl, httl, hms⟩
      · exact .inl (kept rfl he)
  | take k =>
    simp only [perform, Outcome.state_mapAnswer] at he
    exact .inl (kept rfl (mem_maybeSweep_of_mem_take he))
  | lookup k consume =>
    simp only [perform, Outcome.state_mapAnswer, lookup] at he
    cases consume
    · exact .inl (kept rfl (mem_maybeSweep_of_mem_read he))
    · exact .inl (kept rfl (mem_maybeSweep_of_mem_take he))
  | maybeSweep => exact .inl (kept rfl he)
  | sweep =>
    simp only [perform, Outcome.state_mapAnswer, sweep, sweepAt_state, mem_liveAt] at he
    exact .inl ⟨he.1, fun _ => he.2⟩
  | remove k => exact .inl (untouched rfl (mem_erase.1 he).1)
  | removeWhere p => exact .inl (untouched rfl ((sublist_removeWhere s p).subset he))
  | removeLiveWhere p => exact .inl (untouched rfl ((sublist_removeWhere s _).subset he))
  | get k => exact .inl (untouched rfl he)
  | liveEntries p => exact .inl (untouched rfl he)
  | collectLive p => exact .inl (untouched rfl he)
  | size => exact .inl (untouched rfl he)

end Store

end CredentialCache
