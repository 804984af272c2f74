import Mathlib.Data.List.Nodup
import CredentialCache.Proofs.Store.Removal
/-!
# What each store operation does to the entries

The throttled sweep is summed up once: the gate refuses it and nothing changes, or the gate
passes it and exactly the entries expired at the clock's instant go. The live view of a store at
an instant is the list of its entries still live then; a sweep at that instant leaves it as it
was, and when keys are unique a keyed read sees exactly the live entry under its key.
-/

namespace CredentialCache

namespace Store

variable {α : Type} {s : Store α} {c : Clock} {k : String} {t : Instant} {e x : Entry α}

@[simp] theorem entries_erase (s : Store α) (k : String) :
    (s.erase k).entries = s.entries.filter (·.key != k) := rfl

@[simp] theorem gate_erase (s : Store α) (k : String) : (s.erase k).gate = s.gate := rfl

@[simp] theorem sweeps_erase (s : Store α) (k : String) : (s.erase k).sweeps = s.sweeps := rfl

@[simp] theorem entries_insert (s : Store α) (e : Entry α) :
    (s.insert e).entries = e :: s.entries.filter (·.key != e.key) := rfl

@[simp] theorem gate_insert (s : Store α) (e : Entry α) : (s.insert e).gate = s.gate := rfl

@[simp] theorem sweeps_insert (s : Store α) (e : Entry α) : (s.insert e).sweeps = s.sweeps := rfl

theorem empty_eq_ok {name : String} {I : Int} (h : Store.empty name I = .ok s) :
    SweepGate.create I = .ok s.gate ∧ s.entries = [] ∧ s.sweeps = 0 := by
  unfold empty at h
  cases hg : SweepGate.create I with
  | error err => simp [hg, Except.map] at h
  | ok g =>
    simp only [hg, Except.map, Except.ok.injEq] at h
    subst h
    exact ⟨rfl, rfl, rfl⟩

def liveAt (s : Store α) (t : Instant) : List (Entry α) := s.entries.filter (·.isLiveAt t)

def liveUnder (s : Store α) (t : Instant) (k : String) : Option (Entry α) :=
  (s.liveAt t).find? (·.key == k)

def KeysUnique (s : Store α) : Prop := (s.entries.map (·.key)).Nodup

instance (s : Store α) : Decidable s.KeysUnique := inferInstanceAs (Decidable (List.Nodup _))

theorem mem_liveAt : e ∈ s.liveAt t ↔ e ∈ s.entries ∧ t.ms < e.expires.ms := by
  simp [liveAt]

theorem mem_liveAt_erase : x ∈ (s.erase k).liveAt t ↔ x ∈ s.liveAt t ∧ x.key ≠ k := by
  simp only [mem_liveAt, entries_erase, List.mem_filter, bne_iff_ne, ne_eq]
  tauto

theorem mem_liveAt_insert :
    x ∈ (s.insert e).liveAt t ↔ (x = e ∧ t.ms < e.expires.ms) ∨ (x ∈ s.liveAt t ∧ x.key ≠ e.key) := by
  simp only [mem_liveAt, entries_insert, List.mem_cons, List.mem_filter, bne_iff_ne, ne_eq]
  constructor
  · rintro ⟨rfl | ⟨hx, hk⟩, hlive⟩
    · exact .inl ⟨rfl, hlive⟩
    · exact .inr ⟨⟨hx, hlive⟩, hk⟩
  · rintro (⟨rfl, hlive⟩ | ⟨⟨hx, hlive⟩, hk⟩)
    · exact ⟨.inl rfl, hlive⟩
    · exact ⟨.inr ⟨hx, hk⟩, hlive⟩

theorem liveAt_filter_of_le {t' : Instant} (h : t.ms ≤ t'.ms) :
    (s.liveAt t).filter (·.isLiveAt t') = s.liveAt t' := by
  simp only [liveAt, List.filter_filter]
  apply List.filter_congr
  intro e _
  simp only [Entry.isLiveAt, Entry.isExpiredAt, Instant.le_def]
  by_cases h' : e.expires.ms ≤ t'.ms <;> by_cases h'' : e.expires.ms ≤ t.ms <;> simp [h', h''];
    omega

/-! ## Unique keys -/

theorem KeysUnique.of_sublist {l : List (Entry α)} (h : s.KeysUnique) (hl : l.Sublist s.entries) :
    (l.map (·.key)).Nodup :=
  h.sublist (hl.map _)

private theorem KeysUnique.eq_of_mem (h : s.KeysUnique) (hx : x ∈ s.entries) (he : e ∈ s.entries)
    (hk : x.key = e.key) : x = e :=
  List.inj_on_of_nodup_map h hx he hk

theorem KeysUnique.nodup_liveAt (h : s.KeysUnique) : (s.liveAt t).Nodup :=
  (h.of_sublist List.filter_sublist).of_map _

theorem KeysUnique.erase (h : s.KeysUnique) (k : String) : (s.erase k).KeysUnique :=
  h.of_sublist List.filter_sublist

theorem KeysUnique.insert (h : s.KeysUnique) (e : Entry α) : (s.insert e).KeysUnique := by
  unfold KeysUnique
  rw [entries_insert, List.map_cons, List.nodup_cons]
  refine ⟨?_, h.of_sublist List.filter_sublist⟩
  simp

private theorem find?_key_eq_some_iff {l : List (Entry α)} (h : (l.map (·.key)).Nodup) :
    l.find? (·.key == k) = some e ↔ e ∈ l ∧ e.key = k := by
  constructor
  · intro he
    exact ⟨List.mem_of_find?_eq_some he, by simpa using List.find?_some he⟩
  · rintro ⟨he, rfl⟩
    cases hf : l.find? (·.key == e.key) with
    | none => exact absurd he (by simpa using List.find?_eq_none.1 hf e)
    | some y =>
      have hy := List.mem_of_find?_eq_some hf
      have hyk : y.key = e.key := by simpa using List.find?_some hf
      rw [List.inj_on_of_nodup_map h hy he hyk]

theorem KeysUnique.find?_eq_some_iff (h : s.KeysUnique) :
    s.find? k = some e ↔ e ∈ s.entries ∧ e.key = k :=
  find?_key_eq_some_iff h

theorem KeysUnique.liveUnder_eq_some_iff (h : s.KeysUnique) :
    s.liveUnder t k = some e ↔ e ∈ s.liveAt t ∧ e.key = k :=
  find?_key_eq_some_iff (h.of_sublist List.filter_sublist)

theorem KeysUnique.liveUnder_eq (h : s.KeysUnique) (t : Instant) (k : String) :
    s.liveUnder t k = (s.find? k).filter (·.isLiveAt t) := by
  ext e
  rw [h.liveUnder_eq_some_iff, Option.filter_eq_some_iff, h.find?_eq_some_iff, liveAt,
    List.mem_filter]
  tauto

/-! ## Sweeps -/

private theorem sweepAt_answer (s : Store α) (t : Instant) :
    (s.sweepAt t).answer = s.entries.countP (·.isExpiredAt t) :=
  count_removeWhere s _

theorem sweepAt_state (s : Store α) (t : Instant) :
    (s.sweepAt t).state = { s with entries := s.liveAt t, sweeps := s.sweeps + 1 } := by
  have h : (s.sweepAt t).state = { s with
      entries := (s.removeWhere (·.isExpiredAt t)).2.entries, sweeps := s.sweeps + 1 } := rfl
  rw [h, entries_removeWhere]
  rfl

theorem liveAt_sweepAt (s : Store α) (t : Instant) : (s.sweepAt t).state.liveAt t = s.liveAt t := by
  rw [sweepAt_state]
  exact liveAt_filter_of_le (Int.le_refl t.ms)

/-- The throttled sweep either is refused by the gate and changes nothing, or passes it: the gate
takes the reading, the entries expired at the clock's instant go, and the sweep is counted. -/
theorem maybeSweep_cases (s : Store α) (c : Clock) :
    (s.gate.tryAcquire c.reading = none ∧ (s.maybeSweep c).answer = none ∧
      (s.maybeSweep c).state = s) ∨
    ∃ g, s.gate.tryAcquire c.reading = some g ∧
      (s.maybeSweep c).answer = some (s.entries.countP (·.isExpiredAt c.now)) ∧
      (s.maybeSweep c).state =
        { s with gate := g, entries := s.liveAt c.now, sweeps := s.sweeps + 1 } := by
  unfold maybeSweep
  cases s.gate.tryAcquire c.reading with
  | none => exact .inl ⟨rfl, rfl, rfl⟩
  | some g => exact .inr ⟨g, rfl, congrArg some (sweepAt_answer _ _), sweepAt_state _ _⟩

theorem gate_maybeSweep (s : Store α) (c : Clock) :
    (s.maybeSweep c).state.gate = (s.gate.tryAcquire c.reading).getD s.gate := by
  rcases maybeSweep_cases s c with ⟨h, -, hs⟩ | ⟨g, h, -, hs⟩ <;> simp [hs, h]

theorem sweeps_maybeSweep (s : Store α) (c : Clock) :
    (s.maybeSweep c).state.sweeps =
      s.sweeps + if (s.gate.tryAcquire c.reading).isSome then 1 else 0 := by
  rcases maybeSweep_cases s c with ⟨h, -, hs⟩ | ⟨g, h, -, hs⟩ <;> simp [hs, h]

theorem entries_maybeSweep (s : Store α) (c : Clock) :
    (s.maybeSweep c).state.entries = s.entries ∨
      (s.maybeSweep c).state.entries = s.liveAt c.now := by
  rcases maybeSweep_cases s c with ⟨-, -, hs⟩ | ⟨g, -, -, hs⟩ <;> simp [hs]

theorem mem_of_mem_maybeSweep (h : e ∈ (s.maybeSweep c).state.entries) : e ∈ s.entries := by
  rcases entries_maybeSweep s c with hs | hs <;> rw [hs] at h
  · exact h
  · exact (List.mem_filter.1 h).1

theorem liveAt_maybeSweep (s : Store α) (c : Clock) :
    (s.maybeSweep c).state.liveAt c.now = s.liveAt c.now := by
  rcases entries_maybeSweep s c with hs | hs
  · simp only [liveAt, hs]
  · simp only [liveAt, hs, List.filter_filter, Bool.and_self]

theorem KeysUnique.maybeSweep (h : s.KeysUnique) (c : Clock) : (s.maybeSweep c).state.KeysUnique := by
  rcases entries_maybeSweep s c with hs | hs <;> unfold KeysUnique <;> rw [hs]
  · exact h
  · exact h.of_sublist List.filter_sublist

theorem liveUnder_maybeSweep (s : Store α) (c : Clock) (k : String) :
    (s.maybeSweep c).state.liveUnder c.now k = s.liveUnder c.now k := by
  unfold liveUnder
  rw [liveAt_maybeSweep]

/-- `s'` keeps some of the entries of `s`, all those live at `t` among them: what any number of
sweeps at `t` leave. -/
def TrimmedAt (t : Instant) (s s' : Store α) : Prop :=
  (∀ e ∈ s'.entries, e ∈ s.entries) ∧ ∀ e ∈ s.liveAt t, e ∈ s'.entries

theorem TrimmedAt.refl (t : Instant) (s : Store α) : s.TrimmedAt t s :=
  ⟨fun _ he => he, fun _ he => (mem_liveAt.1 he).1⟩

theorem TrimmedAt.trans {s₁ s₂ s₃ : Store α} (h₁ : s₁.TrimmedAt t s₂) (h₂ : s₂.TrimmedAt t s₃) :
    s₁.TrimmedAt t s₃ := by
  refine ⟨fun e he => h₁.1 e (h₂.1 e he), fun e he => ?_⟩
  have hlive := (mem_liveAt.1 he).2
  exact h₂.2 e (mem_liveAt.2 ⟨h₁.2 e he, hlive⟩)

theorem trimmedAt_maybeSweep (s : Store α) (c : Clock) : s.TrimmedAt c.now (s.maybeSweep c).state := by
  refine ⟨fun _ he => mem_of_mem_maybeSweep he, fun e he => ?_⟩
  rw [← liveAt_maybeSweep] at he
  exact (mem_liveAt.1 he).1

theorem trimmedAt_sweepAt (s : Store α) (t : Instant) : s.TrimmedAt t (s.sweepAt t).state := by
  refine ⟨fun e he => ?_, fun e he => ?_⟩
  · rw [sweepAt_state] at he
    exact (mem_liveAt.1 he).1
  · rw [sweepAt_state]
    exact he

/-! ## Writes and reads after the sweep -/

private theorem afterSweep_answer {β : Type} (s : Store α) (c : Clock) (f : Store α → β × Store α) :
    (s.afterSweep c f).answer = (f (s.maybeSweep c).state).1 := rfl

private theorem afterSweep_state {β : Type} (s : Store α) (c : Clock) (f : Store α → β × Store α) :
    (s.afterSweep c f).state = (f (s.maybeSweep c).state).2 := rfl

theorem expiryAfter_eq_ok_iff {now exp : Instant} {ttl : Int} :
    expiryAfter k now ttl = .ok exp ↔ 0 < ttl ∧ exp.ms = now.ms + ttl := by
  unfold expiryAfter Instant.addMs?
  by_cases httl : ttl ≤ 0
  · simp only [httl, if_true, reduceCtorEq, false_iff, not_and]
    omega
  · simp only [httl, if_false]
    cases h : Instant.ofMs? (now.ms + ttl) with
    | none =>
      simp only [reduceCtorEq, false_iff, not_and]
      intro _ hexp
      exact absurd (Instant.ofMs?_eq_some_iff.2 hexp) (by simp [h])
    | some e =>
      have he := Instant.ofMs?_eq_some_iff.1 h
      simp only [Except.ok.injEq]
      constructor
      · rintro rfl; exact ⟨by omega, he⟩
      · rintro ⟨-, hexp⟩; exact Instant.ext_ms (he.trans hexp.symm)

theorem put_state (s : Store α) (c : Clock) (k : String) (v : α) (ttl : Int) :
    (s.put c k v ttl).state = match expiryAfter k c.now ttl with
      | .error _ => (s.maybeSweep c).state
      | .ok exp => (s.maybeSweep c).state.insert ⟨k, v, c.now, exp⟩ := by
  simp only [put, afterSweep_state]
  cases expiryAfter k c.now ttl <;> rfl

theorem put_answer (s : Store α) (c : Clock) (k : String) (v : α) (ttl : Int) :
    (s.put c k v ttl).answer = (expiryAfter k c.now ttl).map fun _ => () := by
  simp only [put, afterSweep_answer]
  cases expiryAfter k c.now ttl <;> rfl

theorem putUntil_state (s : Store α) (c : Clock) (k : String) (v : α) (exp : Instant) :
    (s.putUntil c k v exp).state = if exp ≤ c.now then (s.maybeSweep c).state
      else (s.maybeSweep c).state.insert ⟨k, v, c.now, exp⟩ := by
  simp only [putUntil, afterSweep_state]
  split <;> rfl

theorem putUntil_answer (s : Store α) (c : Clock) (k : String) (v : α) (exp : Instant) :
    (s.putUntil c k v exp).answer = if exp ≤ c.now
      then .error (.expiresImmediately k (exp.ms - c.now.ms)) else .ok () := by
  simp only [putUntil, afterSweep_answer]
  split <;> rfl

theorem putIfAbsent_state (s : Store α) (c : Clock) (k : String) (v : α) (ttl : Int) :
    (s.putIfAbsent c k v ttl).state = match expiryAfter k c.now ttl with
      | .error _ => (s.maybeSweep c).state
      | .ok exp => if ((s.maybeSweep c).state.find? k).any (·.isLiveAt c.now)
        then (s.maybeSweep c).state else (s.maybeSweep c).state.insert ⟨k, v, c.now, exp⟩ := by
  simp only [putIfAbsent, afterSweep_state]
  cases expiryAfter k c.now ttl with
  | error => rfl
  | ok exp => by_cases h : ((s.maybeSweep c).state.find? k).any (·.isLiveAt c.now) <;> simp [h]

theorem putIfAbsent_answer (s : Store α) (c : Clock) (k : String) (v : α) (ttl : Int) :
    (s.putIfAbsent c k v ttl).answer = match expiryAfter k c.now ttl with
      | .error err => .error err
      | .ok _ => .ok (if ((s.maybeSweep c).state.find? k).any (·.isLiveAt c.now) then some v
        else none) := by
  simp only [putIfAbsent, afterSweep_answer]
  cases expiryAfter k c.now ttl with
  | error => rfl
  | ok exp => by_cases h : ((s.maybeSweep c).state.find? k).any (·.isLiveAt c.now) <;> simp [h]

/-- A conditional write either fails on its expiry having only swept, or finds a live entry under
its key and only sweeps, or stores its entry after the sweep. -/
theorem putIfAbsent_cases (s : Store α) (c : Clock) (k : String) (v : α) (ttl : Int) :
    (∃ err, (s.putIfAbsent c k v ttl).answer = .error err ∧
      (s.putIfAbsent c k v ttl).state = (s.maybeSweep c).state) ∨
    (((s.maybeSweep c).state.find? k).any (·.isLiveAt c.now) = true ∧
      (s.putIfAbsent c k v ttl).answer = .ok (some v) ∧
      (s.putIfAbsent c k v ttl).state = (s.maybeSweep c).state) ∨
    ∃ exp, 0 < ttl ∧ exp.ms = c.now.ms + ttl ∧
      ((s.maybeSweep c).state.find? k).any (·.isLiveAt c.now) = false ∧
      (s.putIfAbsent c k v ttl).answer = .ok none ∧
      (s.putIfAbsent c k v ttl).state = (s.maybeSweep c).state.insert ⟨k, v, c.now, exp⟩ := by
  rw [putIfAbsent_answer, putIfAbsent_state]
  cases hexp : expiryAfter k c.now ttl with
  | error err => exact .inl ⟨err, rfl, rfl⟩
  | ok exp =>
    obtain ⟨httl, hms⟩ := expiryAfter_eq_ok_iff.1 hexp
    cases hlive : ((s.maybeSweep c).state.find? k).any (·.isLiveAt c.now)
    · exact .inr (.inr ⟨exp, httl, hms, rfl, by simp, by simp⟩)
    · exact .inr (.inl ⟨rfl, by simp, by simp⟩)

theorem putIfAbsent_handsBack {v w : α} {ttl : Int} (h : (s.putIfAbsent c k v ttl).answer = .ok (some w)) :
    w = v := by
  rcases putIfAbsent_cases s c k v ttl with ⟨err, hans, -⟩ | ⟨-, hans, -⟩ | ⟨exp, -, -, -, hans, -⟩
  · rw [hans] at h; cases h
  · rw [hans] at h; cases h; rfl
  · rw [hans] at h; cases h

theorem take_answer (s : Store α) (c : Clock) (k : String) :
    (s.take c k).answer = match (s.maybeSweep c).state.find? k with
      | none => .notFound
      | some e => if e.isExpiredAt c.now then .expired else .found e.value := by
  simp only [take, afterSweep_answer]
  split <;> simp_all

theorem take_state (s : Store α) (c : Clock) (k : String) :
    (s.take c k).state = match (s.maybeSweep c).state.find? k with
      | none => (s.maybeSweep c).state
      | some _ => (s.maybeSweep c).state.erase k := by
  simp only [take, afterSweep_state]
  cases (s.maybeSweep c).state.find? k <;> rfl

theorem take_entries (s : Store α) (c : Clock) (k : String) :
    (s.take c k).state.entries = (s.maybeSweep c).state.entries.filter (·.key != k) := by
  rw [take_state]
  cases hf : (s.maybeSweep c).state.find? k with
  | none =>
    simp only [find?, List.find?_eq_none, beq_iff_eq] at hf
    symm
    exact List.filter_eq_self.2 fun e he => by simpa using hf e he
  | some _ => rfl

theorem read_answer (s : Store α) (c : Clock) (k : String) :
    (s.read c k).answer = (s.take c k).answer := by
  simp only [read, take, afterSweep_answer]
  cases (s.maybeSweep c).state.find? k with
  | none => rfl
  | some e => by_cases he : e.isExpiredAt c.now = true <;> simp [he]

theorem read_state (s : Store α) (c : Clock) (k : String) :
    (s.read c k).state = match (s.maybeSweep c).state.find? k with
      | some e => if e.isExpiredAt c.now then (s.maybeSweep c).state.erase k
        else (s.maybeSweep c).state
      | none => (s.maybeSweep c).state := by
  simp only [read, afterSweep_state]
  cases (s.maybeSweep c).state.find? k with
  | none => rfl
  | some e => by_cases he : e.isExpiredAt c.now = true <;> simp [he]

theorem KeysUnique.found?_take (h : s.KeysUnique) (c : Clock) (k : String) :
    (s.take c k).answer.found? = (s.liveUnder c.now k).map (·.value) := by
  rw [take_answer, ← liveUnder_maybeSweep, (h.maybeSweep c).liveUnder_eq]
  cases (s.maybeSweep c).state.find? k with
  | none => rfl
  | some e =>
    by_cases he : e.isExpiredAt c.now = true <;> simp [he, Lookup.found?, Entry.isLiveAt, Option.filter_some]

theorem KeysUnique.putIfAbsent_finds (h : s.KeysUnique) (c : Clock) (k : String) :
    ((s.maybeSweep c).state.find? k).any (·.isLiveAt c.now) = (s.liveUnder c.now k).isSome := by
  rw [← liveUnder_maybeSweep, (h.maybeSweep c).liveUnder_eq]
  cases (s.maybeSweep c).state.find? k with
  | none => rfl
  | some e => by_cases he : e.isLiveAt c.now = true <;> simp [he, Option.filter_some]

theorem mem_liveAt_take : x ∈ (s.take c k).state.liveAt c.now ↔ x ∈ s.liveAt c.now ∧ x.key ≠ k := by
  rw [← liveAt_maybeSweep s c, liveAt, take_entries]
  simp only [liveAt, List.mem_filter, bne_iff_ne, ne_eq]
  tauto

theorem KeysUnique.liveAt_read (h : s.KeysUnique) (c : Clock) (k : String) :
    (s.read c k).state.liveAt c.now = s.liveAt c.now := by
  rw [← liveAt_maybeSweep s c, read_state]
  cases hf : (s.maybeSweep c).state.find? k with
  | none => rfl
  | some e =>
    by_cases he : e.isExpiredAt c.now = true
    · simp only [he, if_true, liveAt, entries_erase, List.filter_filter]
      apply List.filter_congr
      intro y hy
      -- The only entry under `k` is the expired one.
      by_cases hyk : y.key = k
      · have hek : e.key = k := by simpa using List.find?_some hf
        have hye := (h.maybeSweep c).eq_of_mem hy (List.mem_of_find?_eq_some hf) (hyk.trans hek.symm)
        subst hye
        simp [Entry.isLiveAt, he]
      · simp [hyk]
    · simp [he]

/-! ## Reads and removals over the live entries -/

theorem liveEntries_perm (s : Store α) (t : Instant) (p : Entry α → Bool) :
    (s.liveEntries t p).Perm ((s.liveAt t).filter p) := by
  unfold liveEntries liveAt
  refine (List.mergeSort_perm _ _).trans ?_
  rw [List.filter_filter]
  exact .of_eq (List.filter_congr fun e _ => Bool.and_comm _ _)

theorem removeLiveWhere_count (s : Store α) (t : Instant) (p : α → Bool) :
    (s.removeLiveWhere t p).1 = (s.liveAt t).countP (p ·.value) := by
  simp only [removeLiveWhere, count_removeWhere, liveAt, List.countP_filter]
  exact List.countP_congr fun e _ => by simp [Bool.and_comm]

theorem mem_liveAt_removeLiveWhere {p : α → Bool} :
    x ∈ (s.removeLiveWhere t p).2.liveAt t ↔ x ∈ s.liveAt t ∧ p x.value = false := by
  simp only [removeLiveWhere, liveAt, entries_removeWhere, List.mem_filter, Bool.not_and,
    Bool.or_eq_true, Bool.not_eq_true']
  constructor
  · rintro ⟨⟨hx, hxl | hxp⟩, hl⟩
    · simp_all
    · exact ⟨⟨hx, hl⟩, hxp⟩
  · rintro ⟨⟨hx, hl⟩, hxp⟩
    exact ⟨⟨hx, .inr hxp⟩, hl⟩

end Store

end CredentialCache
