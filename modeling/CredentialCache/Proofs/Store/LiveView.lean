import CredentialCache.Proofs.Store.Calls
/-!
# Sweeping is invisible through the live API

Two stores that hold the same live entries answer every call of the live API alike, and keep
holding the same live entries, however their expired entries, gates and sweep counts differ.
Each such call decides only on the entries live at the clock's instant: a conditional write over
an expired entry acts as over a vacant key, and a read that meets an expired entry reports it as
gone. An expired entry is told apart from a missing one only by the name of the answer, so
answers are compared with the two identified, the counts of sweeps ignored and listings taken
as multisets.
-/

namespace CredentialCache

variable {α : Type}

def StoreCall.isLiveApi : StoreCall α → Bool
  | .get _ | .remove _ | .removeWhere _ | .size => false
  | _ => true

/-- Two answers that say the same about live entries: an expired entry counts as missing, the
count of a sweep is ignored, and listings are compared up to order. -/
def StoreReply.Alike : StoreReply α → StoreReply α → Prop
  | .stored r₁, .stored r₂ => r₁ = r₂
  | .offered r₁, .offered r₂ => r₁ = r₂
  | .lookedUp l₁, .lookedUp l₂ => l₁.found? = l₂.found?
  | .count n₁, .count n₂ => n₁ = n₂
  | .swept _, .swept _ => True
  | .maybeSwept _, .maybeSwept _ => True
  | .entries es₁, .entries es₂ => es₁.Perm es₂
  | .values vs₁, .values vs₂ => vs₁.Perm vs₂
  | _, _ => False

namespace Store

/-- Two stores hold the same entries live at `t`; they may differ in expired entries, gates and
sweep counts. -/
def LiveAgree (t : Instant) (s₁ s₂ : Store α) : Prop := ∀ e, e ∈ s₁.liveAt t ↔ e ∈ s₂.liveAt t

variable {s₁ s₂ : Store α} {t : Instant} {c : Clock}

theorem LiveAgree.mono (h : LiveAgree t s₁ s₂) {t' : Instant} (ht : t.ms ≤ t'.ms) :
    LiveAgree t' s₁ s₂ := by
  intro e
  rw [← liveAt_filter_of_le ht, ← liveAt_filter_of_le ht, List.mem_filter, List.mem_filter, h e]

theorem LiveAgree.perm (h : LiveAgree t s₁ s₂) (h₁ : s₁.KeysUnique) (h₂ : s₂.KeysUnique) :
    (s₁.liveAt t).Perm (s₂.liveAt t) :=
  (List.perm_ext_iff_of_nodup h₁.nodup_liveAt h₂.nodup_liveAt).2 h

private theorem LiveAgree.perm_liveEntries (h : LiveAgree t s₁ s₂) (h₁ : s₁.KeysUnique)
    (h₂ : s₂.KeysUnique) (p : Entry α → Bool) : (s₁.liveEntries t p).Perm (s₂.liveEntries t p) :=
  (liveEntries_perm s₁ t p).trans (((h.perm h₁ h₂).filter p).trans (liveEntries_perm s₂ t p).symm)

theorem LiveAgree.liveUnder_eq (h : LiveAgree t s₁ s₂) (h₁ : s₁.KeysUnique) (h₂ : s₂.KeysUnique)
    (k : String) : s₁.liveUnder t k = s₂.liveUnder t k := by
  ext e
  rw [h₁.liveUnder_eq_some_iff, h₂.liveUnder_eq_some_iff, h e]

theorem LiveAgree.maybeSweep (h : LiveAgree c.now s₁ s₂) :
    LiveAgree c.now (s₁.maybeSweep c).state (s₂.maybeSweep c).state := by
  intro e
  rw [liveAt_maybeSweep, liveAt_maybeSweep, h e]

theorem LiveAgree.insert (h : LiveAgree t s₁ s₂) (e : Entry α) :
    LiveAgree t (s₁.insert e) (s₂.insert e) := by
  intro x
  rw [mem_liveAt_insert, mem_liveAt_insert, h x]

theorem LiveAgree.erase (h : LiveAgree t s₁ s₂) (k : String) :
    LiveAgree t (s₁.erase k) (s₂.erase k) := by
  intro x
  rw [mem_liveAt_erase, mem_liveAt_erase, h x]

theorem KeysUnique.perform {s : Store α} (h : s.KeysUnique) (c : Clock) (call : StoreCall α) :
    (s.perform c call).state.KeysUnique := by
  have hsw := h.maybeSweep c
  cases call with
  | put k v ttl =>
    simp only [Store.perform, Outcome.mapAnswer, put_state]
    cases expiryAfter k c.now ttl with
    | error => exact hsw
    | ok exp => exact hsw.insert _
  | putUntil k v e =>
    simp only [Store.perform, Outcome.mapAnswer, putUntil_state]
    by_cases he : e ≤ c.now
    · rw [if_pos he]; exact hsw
    · rw [if_neg he]; exact hsw.insert _
  | putIfAbsent k v ttl =>
    simp only [Store.perform, Outcome.mapAnswer, putIfAbsent_state]
    cases expiryAfter k c.now ttl with
    | error => exact hsw
    | ok exp =>
      dsimp only
      by_cases hl : ((s.maybeSweep c).state.find? k).any (·.isLiveAt c.now) = true
      · rw [if_pos hl]; exact hsw
      · rw [if_neg hl]; exact hsw.insert _
  | take k =>
    simp only [Store.perform, Outcome.mapAnswer, take_state]
    cases (s.maybeSweep c).state.find? k
    · exact hsw
    · exact hsw.erase k
  | lookup k consume =>
    cases consume
    · simp only [Store.perform, Outcome.mapAnswer, lookup, Bool.false_eq_true, if_false,
        read_state]
      cases (s.maybeSweep c).state.find? k with
      | none => exact hsw
      | some e =>
        dsimp only
        by_cases he : e.isExpiredAt c.now = true
        · rw [if_pos he]; exact hsw.erase k
        · rw [if_neg he]; exact hsw
    · simp only [Store.perform, Outcome.mapAnswer, lookup, if_true, take_state]
      cases (s.maybeSweep c).state.find? k
      · exact hsw
      · exact hsw.erase k
  | remove k => exact h.erase k
  | removeWhere p => exact h.of_sublist (sublist_removeWhere s p)
  | removeLiveWhere p => exact h.of_sublist (sublist_removeWhere s _)
  | sweep => exact h.of_sublist (sublist_removeWhere s _)
  | maybeSweep => exact hsw
  | get k => exact h
  | liveEntries p => exact h
  | collectLive p => exact h
  | size => exact h

theorem LiveAgree.perform (h : LiveAgree c.now s₁ s₂) (h₁ : s₁.KeysUnique) (h₂ : s₂.KeysUnique)
    {call : StoreCall α} (hcall : call.isLiveApi) :
    (s₁.perform c call).answer.Alike (s₂.perform c call).answer ∧
      LiveAgree c.now (s₁.perform c call).state (s₂.perform c call).state := by
  have hsw := h.maybeSweep
  have hunder := h.liveUnder_eq h₁ h₂
  cases call with
  | put k v ttl =>
    simp only [Store.perform, Outcome.mapAnswer, StoreReply.Alike, put_answer, put_state,
      true_and]
    cases expiryAfter k c.now ttl with
    | error => exact hsw
    | ok exp => exact hsw.insert _
  | putUntil k v e =>
    simp only [Store.perform, Outcome.mapAnswer, StoreReply.Alike, putUntil_answer,
      putUntil_state, true_and]
    by_cases he : e ≤ c.now
    · rw [if_pos he, if_pos he]; exact hsw
    · rw [if_neg he, if_neg he]; exact hsw.insert _
  | putIfAbsent k v ttl =>
    -- Both stores decide on whether a live entry holds the key, and that is the same entry.
    simp only [Store.perform, Outcome.mapAnswer, StoreReply.Alike, putIfAbsent_answer,
      putIfAbsent_state, h₁.putIfAbsent_finds, h₂.putIfAbsent_finds, hunder]
    cases expiryAfter k c.now ttl with
    | error => exact ⟨trivial, hsw⟩
    | ok exp =>
      refine ⟨trivial, ?_⟩
      dsimp only
      by_cases hl : (s₂.liveUnder c.now k).isSome = true
      · rw [if_pos hl, if_pos hl]; exact hsw
      · rw [if_neg hl, if_neg hl]; exact hsw.insert _
  | take k =>
    simp only [Store.perform, Outcome.mapAnswer, StoreReply.Alike, h₁.found?_take,
      h₂.found?_take, hunder, true_and]
    intro x
    rw [mem_liveAt_take, mem_liveAt_take, h x]
  | lookup k consume =>
    cases consume
    · simp only [Store.perform, Outcome.mapAnswer, StoreReply.Alike, lookup, Bool.false_eq_true,
        if_false, read_answer, h₁.found?_take, h₂.found?_take, hunder, true_and]
      intro x
      rw [h₁.liveAt_read, h₂.liveAt_read, h x]
    · simp only [Store.perform, Outcome.mapAnswer, StoreReply.Alike, lookup, if_true,
        h₁.found?_take, h₂.found?_take, hunder, true_and]
      intro x
      rw [mem_liveAt_take, mem_liveAt_take, h x]
  | removeLiveWhere p =>
    simp only [Store.perform, StoreReply.Alike, removeLiveWhere_count]
    refine ⟨(h.perm h₁ h₂).countP_eq _, fun x => ?_⟩
    rw [mem_liveAt_removeLiveWhere, mem_liveAt_removeLiveWhere, h x]
  | sweep =>
    refine ⟨trivial, fun x => ?_⟩
    simp only [Store.perform, Outcome.mapAnswer, sweep, liveAt_sweepAt]
    exact h x
  | maybeSweep => exact ⟨trivial, hsw⟩
  | liveEntries p => exact ⟨h.perm_liveEntries h₁ h₂ p, h⟩
  | collectLive p => exact ⟨(h.perm_liveEntries h₁ h₂ _).map _, h⟩
  | get k => simp [StoreCall.isLiveApi] at hcall
  | remove k => simp [StoreCall.isLiveApi] at hcall
  | removeWhere p => simp [StoreCall.isLiveApi] at hcall
  | size => simp [StoreCall.isLiveApi] at hcall

/-- Sweeping is invisible through the live API. Two stores with unique keys that hold the same
entries live at `t` answer any run of live-API calls alike, so long as the clock never goes back
from `t` and stays in the calendar range; after every step they still hold the same live entries
at the clock's instant. -/
theorem sweeps_invisible_to_live_api {s₁ s₂ : Store α} {t : Instant} (h₁ : s₁.KeysUnique)
    (h₂ : s₂.KeysUnique) (h : LiveAgree t s₁ s₂) (calls : List (Clock × StoreCall α))
    (hlive : ∀ x ∈ calls, x.2.isLiveApi) (hclock : Clock.Forward t.ms (calls.map (·.1))) :
    List.Forall₂ StoreReply.Alike ((Run.trace step s₁ calls).map (·.2))
        ((Run.trace step s₂ calls).map (·.2)) ∧
      LiveAgree (Clock.lastNow t (calls.map (·.1))) (Run.final step s₁ calls)
        (Run.final step s₂ calls) := by
  -- Induction on the run; the relation moves along with the clock's instant.
  induction calls generalizing s₁ s₂ t with
  | nil => exact ⟨.nil, h⟩
  | cons x calls ih =>
    obtain ⟨c, call⟩ := x
    simp only [List.map_cons] at hclock
    obtain ⟨hin, hle, hrest⟩ := hclock
    have hnow : c.now.ms = c.reading := Clock.now_of_inRange hin
    have hc : LiveAgree c.now s₁ s₂ := h.mono (by omega)
    obtain ⟨hans, hstate⟩ := hc.perform h₁ h₂ (hlive (c, call) List.mem_cons_self)
    obtain ⟨htr, hfin⟩ := ih (h₁.perform c call) (h₂.perform c call) hstate
      (fun y hy => hlive y (List.mem_cons_of_mem _ hy)) (by rw [hnow]; exact hrest)
    exact ⟨.cons hans htr, hfin⟩

private def storeWithExpired : Store Nat :=
  { name := "m", gate := ⟨1000, 0, by decide⟩,
    entries := [⟨"k", 7, Instant.epoch, ⟨5, by decide, by decide⟩⟩] }

private def storeWithNone : Store Nat := { name := "m", gate := ⟨1000, 0, by decide⟩ }

theorem sweeps_invisible_over_expired_entry :
    LiveAgree ⟨10, by decide, by decide⟩ storeWithExpired storeWithNone ∧
      List.Forall₂ StoreReply.Alike
        ((Run.trace step storeWithExpired
          [(⟨10⟩, .putIfAbsent "k" 1 100), (⟨20⟩, .lookup "k" false)]).map (·.2))
        ((Run.trace step storeWithNone
          [(⟨10⟩, .putIfAbsent "k" 1 100), (⟨20⟩, .lookup "k" false)]).map (·.2)) := by
  have hagree : LiveAgree ⟨10, by decide, by decide⟩ storeWithExpired storeWithNone := by
    intro e
    have h₁ : storeWithExpired.liveAt ⟨10, by decide, by decide⟩ = [] := by decide
    have h₂ : storeWithNone.liveAt ⟨10, by decide, by decide⟩ = [] := by decide
    rw [h₁, h₂]
  exact ⟨hagree, (sweeps_invisible_to_live_api (by decide) (by decide) hagree _ (by decide)
    (by decide)).1⟩

end Store

end CredentialCache
