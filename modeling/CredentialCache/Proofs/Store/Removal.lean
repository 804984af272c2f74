import CredentialCache.Store.Basic
/-!
# Bulk removal

A bulk removal walks the stored entries once, dropping each entry that passes its test and
counting the removal as it makes it. Its specification, `DropsExactly`, says what such a pass
achieves without naming the pass: the entries are a rearrangement of the dropped entries followed
by the kept ones, every dropped entry passes, no kept entry does, the kept ones stay in stored
order, and the count is the number dropped. Each visit keeps this between the entries visited so
far, the entries kept so far and the running count, so at the end of the pass the count answered
is exactly the number of entries removed and the size falls by it.

The explicit sweep and the removal of live entries are bulk removals with their own tests, and
inherit all of it: a sweep answers the number of entries expired at the clock's instant, leaves
only live ones and counts itself once; a live removal drops exactly the entries live at the
clock's instant whose value passes, and keeps every expired entry.
-/

namespace CredentialCache

namespace Store

variable {α : Type} {p : Entry α → Bool} {entries kept seen : List (Entry α)} {n : Nat}

/-- `kept` is what is left of `entries` when exactly the entries that pass `p` are dropped, `n` of
them: `entries` is a rearrangement of the dropped entries followed by the kept ones, every dropped
entry passes, no kept one does, and the kept ones stay in stored order. -/
def DropsExactly (p : Entry α → Bool) (entries kept : List (Entry α)) (n : Nat) : Prop :=
  ∃ dropped : List (Entry α), entries.Perm (dropped ++ kept) ∧ (∀ e ∈ dropped, p e = true) ∧
    (∀ e ∈ kept, p e = false) ∧ dropped.length = n ∧ kept.Sublist entries

private theorem dropsExactly_nil (p : Entry α → Bool) : DropsExactly p [] [] 0 :=
  ⟨[], .nil, by simp, by simp, rfl, .slnil⟩

namespace DropsExactly

/-- One visit of the pass keeps the specification: an entry that passes joins the dropped ones
and raises the count, any other joins the kept ones at their end. -/
theorem retainVisit {acc : Nat × List (Entry α)} (h : DropsExactly p seen acc.2 acc.1)
    (e : Entry α) :
    DropsExactly p (seen ++ [e]) (retainVisit p acc e).2 (retainVisit p acc e).1 := by
  obtain ⟨dropped, hperm, hdrop, hkeep, hlen, hsub⟩ := h
  cases hp : p e with
  | true =>
    simp only [Store.retainVisit, hp, if_true]
    have hfront : (seen ++ [e]).Perm (e :: dropped ++ acc.2) :=
      (List.perm_append_singleton e seen).trans (hperm.cons e)
    refine ⟨e :: dropped, hfront, ?_, hkeep, by simp [hlen],
      hsub.trans (List.sublist_append_left seen [e])⟩
    intro x hx
    rcases List.mem_cons.1 hx with rfl | hx
    · exact hp
    · exact hdrop x hx
  | false =>
    simp only [Store.retainVisit, hp, Bool.false_eq_true, if_false]
    have hback : (seen ++ [e]).Perm (dropped ++ (acc.2 ++ [e])) := by
      rw [← List.append_assoc]
      exact hperm.append_right [e]
    refine ⟨dropped, hback, hdrop, ?_, hlen, hsub.append_right [e]⟩
    intro x hx
    rcases List.mem_append.1 hx with hx | hx
    · exact hkeep x hx
    · rw [List.mem_singleton.1 hx]
      exact hp

/-- The rest of the pass keeps it too: visiting the remaining entries from any point of the pass
leaves the specification holding between all the entries visited and the running count. -/
private theorem foldl_retainVisit {acc : Nat × List (Entry α)} (h : DropsExactly p seen acc.2 acc.1)
    (rest : List (Entry α)) :
    DropsExactly p (seen ++ rest) (rest.foldl (Store.retainVisit p) acc).2
      (rest.foldl (Store.retainVisit p) acc).1 := by
  induction rest generalizing seen acc with
  | nil => simpa using h
  | cons e rest ih =>
    rw [List.foldl_cons, ← List.singleton_append, ← List.append_assoc]
    exact ih (h.retainVisit e)

private theorem length_add (h : DropsExactly p entries kept n) : kept.length + n = entries.length := by
  obtain ⟨dropped, hperm, -, -, rfl, -⟩ := h
  rw [hperm.length_eq, List.length_append]
  omega

private theorem eq_countP (h : DropsExactly p entries kept n) : n = entries.countP p := by
  obtain ⟨dropped, hperm, hdrop, hkeep, rfl, -⟩ := h
  have hall : dropped.countP p = dropped.length := List.countP_eq_length.2 hdrop
  have hnone : kept.countP p = 0 := List.countP_eq_zero.2 fun e he => by simp [hkeep e he]
  rw [hperm.countP_eq, List.countP_append, hall, hnone, Nat.add_zero]

private theorem mem_iff (h : DropsExactly p entries kept n) {e : Entry α} :
    e ∈ kept ↔ e ∈ entries ∧ p e = false := by
  obtain ⟨dropped, hperm, hdrop, hkeep, -, -⟩ := h
  constructor
  · intro he
    exact ⟨hperm.mem_iff.2 (List.mem_append_right _ he), hkeep e he⟩
  · rintro ⟨he, hp⟩
    rcases List.mem_append.1 (hperm.mem_iff.1 he) with hd | hk
    · simp [hdrop e hd] at hp
    · exact hk

/-- The kept entries are the stored ones that fail the test, in stored order: they are a sublist
of those, and as many. -/
private theorem eq_filter (h : DropsExactly p entries kept n) : kept = entries.filter fun e => !p e := by
  have hsub : kept.Sublist (entries.filter fun e => !p e) := by
    obtain ⟨-, -, -, hkeep, -, hsub⟩ := h
    have hfail : kept.filter (fun e => !p e) = kept :=
      List.filter_eq_self.2 fun e he => by simp [hkeep e he]
    simpa only [hfail] using hsub.filter fun e => !p e
  apply hsub.eq_of_length
  have hsplit := (List.filter_append_perm p entries).length_eq
  rw [List.length_append, ← List.countP_eq_length_filter] at hsplit
  have hlen := h.length_add
  have hcount := h.eq_countP
  omega

end DropsExactly

variable {s : Store α} {c : Clock}

@[simp] theorem gate_removeWhere (s : Store α) (p : Entry α → Bool) :
    (s.removeWhere p).2.gate = s.gate := rfl

@[simp] theorem sweeps_removeWhere (s : Store α) (p : Entry α → Bool) :
    (s.removeWhere p).2.sweeps = s.sweeps := rfl

private theorem removeWhere_dropsExactly (s : Store α) (p : Entry α → Bool) :
    DropsExactly p s.entries (s.removeWhere p).2.entries (s.removeWhere p).1 := by
  have h : DropsExactly p ([] ++ s.entries) (s.entries.foldl (retainVisit p) (0, [])).2
      (s.entries.foldl (retainVisit p) (0, [])).1 :=
    (dropsExactly_nil p).foldl_retainVisit s.entries
  rw [List.nil_append] at h
  exact h

theorem count_removeWhere (s : Store α) (p : Entry α → Bool) :
    (s.removeWhere p).1 = s.entries.countP p :=
  (removeWhere_dropsExactly s p).eq_countP

theorem entries_removeWhere (s : Store α) (p : Entry α → Bool) :
    (s.removeWhere p).2.entries = s.entries.filter fun e => !p e :=
  (removeWhere_dropsExactly s p).eq_filter

theorem removeWhere_snd (s : Store α) (p : Entry α → Bool) :
    (s.removeWhere p).2 = { s with entries := s.entries.filter fun e => !p e } := by
  have h : (s.removeWhere p).2 = { s with entries := (s.removeWhere p).2.entries } := rfl
  rw [h, entries_removeWhere]

theorem sublist_removeWhere (s : Store α) (p : Entry α → Bool) :
    (s.removeWhere p).2.entries.Sublist s.entries := by
  obtain ⟨-, -, -, -, -, hsub⟩ := removeWhere_dropsExactly s p
  exact hsub

private theorem size_removeWhere (s : Store α) (p : Entry α → Bool) :
    (s.removeWhere p).2.size + (s.removeWhere p).1 = s.size :=
  (removeWhere_dropsExactly s p).length_add

private theorem sweep_dropsExactly (s : Store α) (c : Clock) :
    DropsExactly (·.isExpiredAt c.now) s.entries (s.sweep c).state.entries (s.sweep c).answer :=
  removeWhere_dropsExactly s _

@[simp] theorem gate_sweep (s : Store α) (c : Clock) : (s.sweep c).state.gate = s.gate := rfl

@[simp] theorem sweeps_sweep (s : Store α) (c : Clock) :
    (s.sweep c).state.sweeps = s.sweeps + 1 := rfl

private theorem live_of_mem_sweep {e : Entry α} (he : e ∈ (s.sweep c).state.entries) :
    c.now.ms < e.expires.ms := by
  have hp := ((sweep_dropsExactly s c).mem_iff.1 he).2
  simpa [Entry.isExpiredAt, Instant.le_def] using hp

private theorem removeLiveWhere_dropsExactly (s : Store α) (t : Instant) (q : α → Bool) :
    DropsExactly (fun e => e.isLiveAt t && q e.value) s.entries (s.removeLiveWhere t q).2.entries
      (s.removeLiveWhere t q).1 :=
  removeWhere_dropsExactly s _

/-- Bulk removal counts exactly what it drops. A removal by any test drops exactly the entries
that pass, keeps the others in stored order, answers how many it dropped, so the size falls by
the answer, and leaves the gate and the sweep count alone. An explicit sweep answers the number of
entries expired at the clock's instant, leaves only entries live then, keeps the gate and raises
the sweep count by one. A live removal drops exactly the entries live at the clock's instant whose
value passes its test. -/
theorem bulk_removal_counts_exactly (s : Store α) (c : Clock) (p : Entry α → Bool)
    (q : α → Bool) :
    (DropsExactly p s.entries (s.removeWhere p).2.entries (s.removeWhere p).1 ∧
      (s.removeWhere p).2.size + (s.removeWhere p).1 = s.size ∧
      (s.removeWhere p).2.gate = s.gate ∧ (s.removeWhere p).2.sweeps = s.sweeps) ∧
    (DropsExactly (fun e => decide (e.expires.ms ≤ c.now.ms)) s.entries (s.sweep c).state.entries
        (s.sweep c).answer ∧
      (s.sweep c).answer = s.entries.countP (fun e => decide (e.expires.ms ≤ c.now.ms)) ∧
      (∀ e ∈ (s.sweep c).state.entries, c.now.ms < e.expires.ms) ∧
      (s.sweep c).state.gate = s.gate ∧ (s.sweep c).state.sweeps = s.sweeps + 1) ∧
    DropsExactly (fun e => decide (c.now.ms < e.expires.ms) && q e.value) s.entries
      (s.removeLiveWhere c.now q).2.entries (s.removeLiveWhere c.now q).1 := by
  -- The tests of the sweep and of the live removal, read on the instants' milliseconds.
  have hexpired : (fun e : Entry α => e.isExpiredAt c.now) =
      fun e => decide (e.expires.ms ≤ c.now.ms) := by
    funext e
    simp [Entry.isExpiredAt, Instant.le_def]
  have hlive : (fun e : Entry α => e.isLiveAt c.now && q e.value) =
      fun e => decide (c.now.ms < e.expires.ms) && q e.value := by
    funext e
    simp [Entry.isLiveAt, Entry.isExpiredAt, Instant.le_def, ← decide_not]
  have hsweep := sweep_dropsExactly s c
  have hremove := removeLiveWhere_dropsExactly s c.now q
  rw [hexpired] at hsweep
  rw [hlive] at hremove
  refine ⟨⟨removeWhere_dropsExactly s p, size_removeWhere s p, gate_removeWhere s p,
    sweeps_removeWhere s p⟩, ⟨hsweep, hsweep.eq_countP, fun e he => live_of_mem_sweep he,
    gate_sweep s c, sweeps_sweep s c⟩, hremove⟩

end Store

end CredentialCache
