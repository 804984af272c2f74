import CredentialCache.Proofs.Store.FailedWrites
/-!
# Keyed writes and reads

The entries under a key are those filed under it, in stored order, and a store reads the first
of them. A conditional write decides on that entry alone, as the throttled sweep left it: a live
entry keeps the key and the value offered comes back untouched; otherwise the value is stored,
over an expired entry as over a vacant key. So two conditional writes of one key at one instant
never both store. The two keyed reads, the one that consumes and the one that does not, run the
same sweep and classify the entry alike; they leave the same store, except that a consuming read
of a live entry also removes it. No keyed write or read touches another key beyond the sweep.
-/

namespace CredentialCache

namespace Store

variable {α : Type} {s : Store α} {c : Clock} {k k' : String} {e : Entry α}

/-- The entries filed under a key, in stored order. -/
def under (s : Store α) (k : String) : List (Entry α) := s.entries.filter (·.key == k)

theorem find?_eq_head?_under (s : Store α) (k : String) : s.find? k = (s.under k).head? := by
  simp only [find?, under, List.head?_filter]

@[simp] theorem under_insert_self (s : Store α) (e : Entry α) : (s.insert e).under e.key = [e] := by
  simp only [under, entries_insert, List.filter_cons, beq_self_eq_true, if_true, List.filter_filter,
    List.cons.injEq, true_and, List.filter_eq_nil_iff]
  intro x _
  simp only [Bool.and_eq_true, bne_iff_ne, ne_eq, beq_iff_eq, not_and, Decidable.not_not]
  exact fun h => h

private theorem under_insert_of_ne (h : e.key ≠ k) : (s.insert e).under k = s.under k := by
  have hek : (e.key == k) = false := by simpa using h
  simp only [under, entries_insert, List.filter_cons, hek, Bool.false_eq_true, if_false,
    List.filter_filter]
  apply List.filter_congr
  intro x _
  by_cases hx : x.key = k
  · simp [hx, Ne.symm h]
  · simp [hx]

@[simp] theorem under_erase_self (s : Store α) (k : String) : (s.erase k).under k = [] := by
  simp only [under, entries_erase, List.filter_filter, List.filter_eq_nil_iff]
  intro x _
  simp only [Bool.and_eq_true, beq_iff_eq, bne_iff_ne, ne_eq, not_and, Decidable.not_not]
  exact fun h => h

theorem under_erase_of_ne (h : k' ≠ k) : (s.erase k').under k = s.under k := by
  simp only [under, entries_erase, List.filter_filter]
  apply List.filter_congr
  intro x _
  by_cases hx : x.key = k
  · simp [hx, Ne.symm h]
  · simp [hx]

theorem under_removeWhere (s : Store α) (p : Entry α → Bool) (k : String) :
    (s.removeWhere p).2.under k = (s.under k).filter fun x => !p x := by
  simp only [under, entries_removeWhere, List.filter_filter]
  exact List.filter_congr fun x _ => Bool.and_comm _ _

/-- The throttled sweep drops from under a key exactly the entries expired at the clock's instant,
and only if the gate admits the reading. -/
theorem under_maybeSweep (s : Store α) (c : Clock) (k : String) :
    (s.maybeSweep c).state.under k =
      (s.under k).filter fun x => !((s.gate.tryAcquire c.reading).isSome && x.isExpiredAt c.now) := by
  rcases maybeSweep_cases s c with ⟨h, -, hs⟩ | ⟨g, h, -, hs⟩
  · simp [hs, h]
  · simp only [hs, h, under, liveAt, Option.isSome_some, Bool.true_and, List.filter_filter]
    exact List.filter_congr fun x _ => by simp [Entry.isLiveAt, Bool.and_comm]

/-! ## Writes and reads under other keys -/

theorem under_put_of_ne (h : k ≠ k') (v : α) (ttl : Int) :
    (s.put c k v ttl).state.under k' = (s.maybeSweep c).state.under k' := by
  rw [put_state]
  cases expiryAfter k c.now ttl with
  | error => rfl
  | ok exp => exact under_insert_of_ne h

theorem under_putUntil_of_ne (h : k ≠ k') (v : α) (x : Instant) :
    (s.putUntil c k v x).state.under k' = (s.maybeSweep c).state.under k' := by
  rw [putUntil_state]
  split
  · rfl
  · exact under_insert_of_ne h

theorem under_putIfAbsent_of_ne (h : k ≠ k') (v : α) (ttl : Int) :
    (s.putIfAbsent c k v ttl).state.under k' = (s.maybeSweep c).state.under k' := by
  rcases putIfAbsent_cases s c k v ttl with ⟨-, -, hs⟩ | ⟨-, -, hs⟩ | ⟨exp, -, -, -, -, hs⟩
  · rw [hs]
  · rw [hs]
  · rw [hs]
    exact under_insert_of_ne h

/-! ## Conditional writes -/

private theorem putIfAbsent_again_refused {v v' : α} {d d' : Int} {c' : Clock} (hnow : c'.now = c.now)
    (hnone : (s.putIfAbsent c k v d).answer = .ok none) :
    ((s.putIfAbsent c k v d).state.putIfAbsent c' k v' d').answer ≠ .ok none := by
  rcases putIfAbsent_cases s c k v d with ⟨err, hans, -⟩ | ⟨-, hans, -⟩ |
    ⟨exp, hd, hms, -, -, hst⟩
  · rw [hans] at hnone
    cases hnone
  · rw [hans] at hnone
    cases hnone
  · -- The stored entry is live at its own instant, so the second write's sweep keeps it.
    have hkept : (((s.maybeSweep c).state.insert ⟨k, v, c.now, exp⟩).maybeSweep c').state.find? k =
        some ⟨k, v, c.now, exp⟩ := by
      have hlive : (⟨k, v, c.now, exp⟩ : Entry α).isExpiredAt c'.now = false := by
        simp [Entry.isExpiredAt, hnow, hms, hd]
      rw [find?_eq_head?_under, under_maybeSweep, under_insert_self]
      simp [hlive]
    rw [hst, putIfAbsent_answer]
    cases expiryAfter k c'.now d' with
    | error err => simp
    | ok exp' => simp [hkept, Entry.isLiveAt, hnow, hms, hd]

/-- Conditional writes. A write of `v` under `k` for a ttl `d` that passes validation, made at the
clock's instant `t`, hands back `v` itself and changes nothing past its sweep exactly when, after
that sweep, the entry under `k` is live at `t`; otherwise it answers that it stored, and `k` then
holds only `(k, v, t, t + d)`, whether it was vacant or held an expired entry. Every other key,
the gate and the sweep count are as the sweep left them. So of two conditional writes of one key
at one instant, the second never stores. -/
theorem put_if_absent_keeps_live_entry (s : Store α) (c : Clock) (k : String) (v : α) (d : Int)
    (hd : 0 < d) (hmax : c.now.ms + d ≤ Instant.maxMs) :
    (((s.putIfAbsent c k v d).answer = .ok (some v) ∧
        (s.putIfAbsent c k v d).state = (s.maybeSweep c).state) ↔
      ∃ x, (s.maybeSweep c).state.find? k = some x ∧ c.now.ms < x.expires.ms) ∧
    ((¬ ∃ x, (s.maybeSweep c).state.find? k = some x ∧ c.now.ms < x.expires.ms) →
      (s.putIfAbsent c k v d).answer = .ok none ∧
        ∃ exp : Instant, exp.ms = c.now.ms + d ∧
          (s.putIfAbsent c k v d).state.under k = [⟨k, v, c.now, exp⟩]) ∧
    (∀ k', k' ≠ k → (s.putIfAbsent c k v d).state.under k' = (s.maybeSweep c).state.under k') ∧
    (s.putIfAbsent c k v d).state.gate = (s.maybeSweep c).state.gate ∧
    (s.putIfAbsent c k v d).state.sweeps = (s.maybeSweep c).state.sweeps ∧
    ∀ (c' : Clock) (v' : α) (d' : Int), c'.now = c.now →
      (s.putIfAbsent c k v d).answer = .ok none →
      ((s.putIfAbsent c k v d).state.putIfAbsent c' k v' d').answer ≠ .ok none := by
  obtain ⟨exp, hexp, hms⟩ := exists_expiryAfter_eq_ok (k := k) hd hmax
  -- The write decides on whether the entry it reads under `k` after the sweep is live.
  have hlive_iff : ((s.maybeSweep c).state.find? k).any (·.isLiveAt c.now) = true ↔
      ∃ x, (s.maybeSweep c).state.find? k = some x ∧ c.now.ms < x.expires.ms := by
    simp [Option.any_eq_true]
  have hans := putIfAbsent_answer s c k v d
  have hst := putIfAbsent_state s c k v d
  rw [hexp] at hans hst
  dsimp only at hans hst
  by_cases hlive : ((s.maybeSweep c).state.find? k).any (·.isLiveAt c.now) = true
  · -- A live entry keeps the key: the value offered comes back and the store is as swept.
    rw [if_pos hlive] at hans hst
    refine ⟨⟨fun _ => hlive_iff.1 hlive, fun _ => ⟨hans, hst⟩⟩, ?_, ?_, ?_, ?_,
      fun _ _ _ => putIfAbsent_again_refused⟩
    · exact fun hno => absurd (hlive_iff.1 hlive) hno
    · exact fun k' hk' => under_putIfAbsent_of_ne (Ne.symm hk') v d
    · rw [hst]
    · rw [hst]
  · -- No live entry: the value is stored under `k`, over whatever expired entry was there.
    rw [if_neg hlive] at hans hst
    refine ⟨⟨?_, fun h => absurd (hlive_iff.2 h) hlive⟩, ?_, ?_, ?_, ?_,
      fun _ _ _ => putIfAbsent_again_refused⟩
    · rintro ⟨hsome, -⟩
      rw [hans] at hsome
      cases hsome
    · exact fun _ => ⟨hans, exp, hms, by rw [hst]; exact under_insert_self _ _⟩
    · exact fun k' hk' => under_putIfAbsent_of_ne (Ne.symm hk') v d
    · rw [hst]; rfl
    · rw [hst]; rfl

private def storeWithLapsed : Store Nat :=
  { name := "p", gate := ⟨8000, 0, by decide⟩,
    entries := [⟨"k", 7, Instant.epoch, ⟨7, by decide, by decide⟩⟩] }

theorem put_if_absent_over_lapsed_entry :
    (0 : Int) < 100 ∧ (Clock.mk 10).now.ms + 100 ≤ Instant.maxMs ∧
    ((((storeWithLapsed.putIfAbsent ⟨10⟩ "k" 8 100).answer = .ok (some 8) ∧
        (storeWithLapsed.putIfAbsent ⟨10⟩ "k" 8 100).state =
          (storeWithLapsed.maybeSweep ⟨10⟩).state) ↔
      ∃ x, (storeWithLapsed.maybeSweep ⟨10⟩).state.find? "k" = some x ∧
        (Clock.mk 10).now.ms < x.expires.ms) ∧
    ((¬ ∃ x, (storeWithLapsed.maybeSweep ⟨10⟩).state.find? "k" = some x ∧
        (Clock.mk 10).now.ms < x.expires.ms) →
      (storeWithLapsed.putIfAbsent ⟨10⟩ "k" 8 100).answer = .ok none ∧
        ∃ exp : Instant, exp.ms = (Clock.mk 10).now.ms + 100 ∧
          (storeWithLapsed.putIfAbsent ⟨10⟩ "k" 8 100).state.under "k" =
            [⟨"k", 8, (Clock.mk 10).now, exp⟩]) ∧
    (∀ k', k' ≠ "k" → (storeWithLapsed.putIfAbsent ⟨10⟩ "k" 8 100).state.under k' =
      (storeWithLapsed.maybeSweep ⟨10⟩).state.under k') ∧
    (storeWithLapsed.putIfAbsent ⟨10⟩ "k" 8 100).state.gate =
      (storeWithLapsed.maybeSweep ⟨10⟩).state.gate ∧
    (storeWithLapsed.putIfAbsent ⟨10⟩ "k" 8 100).state.sweeps =
      (storeWithLapsed.maybeSweep ⟨10⟩).state.sweeps ∧
    ∀ (c' : Clock) (v' : Nat) (d' : Int), c'.now = (Clock.mk 10).now →
      (storeWithLapsed.putIfAbsent ⟨10⟩ "k" 8 100).answer = .ok none →
      ((storeWithLapsed.putIfAbsent ⟨10⟩ "k" 8 100).state.putIfAbsent c' "k" v' d').answer ≠
        .ok none) :=
  ⟨by decide, by decide,
    put_if_absent_keeps_live_entry storeWithLapsed ⟨10⟩ "k" 8 100 (by decide) (by decide)⟩

/-! ## Consuming and non-consuming reads -/

/-- The two keyed reads meet the entry under the key as the throttled sweep left it: none, one
expired at the clock's instant, which both remove, or a live one, which only the consuming read
removes. -/
private theorem keyedReads_cases (s : Store α) (c : Clock) (k : String) :
    ((s.maybeSweep c).state.find? k = none ∧ (s.take c k).answer = .notFound ∧
      (s.take c k).state = (s.maybeSweep c).state ∧ (s.read c k).state = (s.maybeSweep c).state) ∨
    (∃ x, (s.maybeSweep c).state.find? k = some x ∧ x.expires.ms ≤ c.now.ms ∧
      (s.take c k).answer = .expired ∧ (s.take c k).state = (s.maybeSweep c).state.erase k ∧
      (s.read c k).state = (s.maybeSweep c).state.erase k) ∨
    (∃ x, (s.maybeSweep c).state.find? k = some x ∧ c.now.ms < x.expires.ms ∧
      (s.take c k).answer = .found x.value ∧ (s.take c k).state = (s.maybeSweep c).state.erase k ∧
      (s.read c k).state = (s.maybeSweep c).state) := by
  rw [take_answer, take_state, read_state]
  cases hf : (s.maybeSweep c).state.find? k with
  | none => exact .inl ⟨rfl, rfl, rfl, rfl⟩
  | some x =>
    by_cases hx : x.isExpiredAt c.now = true
    · exact .inr (.inl ⟨x, rfl, Entry.isExpiredAt_eq_true.1 hx, by simp [hx], rfl, by simp [hx]⟩)
    · have hlive : c.now.ms < x.expires.ms := by
        rw [Entry.isExpiredAt_eq_true] at hx
        omega
      exact .inr (.inr ⟨x, rfl, hlive, by simp [hx], rfl, by simp [hx]⟩)

theorem under_take_of_ne (h : k ≠ k') :
    (s.take c k).state.under k' = (s.maybeSweep c).state.under k' := by
  rcases keyedReads_cases s c k with ⟨-, -, hs, -⟩ | ⟨_, -, -, -, hs, -⟩ | ⟨_, -, -, -, hs, -⟩
  · rw [hs]
  · rw [hs]
    exact under_erase_of_ne h
  · rw [hs]
    exact under_erase_of_ne h

theorem under_read_of_ne (h : k ≠ k') :
    (s.read c k).state.under k' = (s.maybeSweep c).state.under k' := by
  rcases keyedReads_cases s c k with ⟨-, -, -, hs⟩ | ⟨_, -, -, -, -, hs⟩ | ⟨_, -, -, -, -, hs⟩
  · rw [hs]
  · rw [hs]
    exact under_erase_of_ne h
  · rw [hs]

/-- The consuming and non-consuming reads agree. From one store at one clock, the read that keeps
a live entry and the read that consumes it give the same answer, found, expired or not found, and
change no other key beyond the sweep. They leave the same store, except that after a found answer
the consuming read has also removed the entry, which the other read left as the sweep left it. An
entry under the key that is expired at the clock's instant is removed by both. -/
theorem consuming_read_agrees (s : Store α) (c : Clock) (k : String) :
    (s.lookup c k false).answer = (s.take c k).answer ∧
    (∀ k', k' ≠ k → (s.lookup c k false).state.under k' = (s.maybeSweep c).state.under k' ∧
      (s.take c k).state.under k' = (s.maybeSweep c).state.under k') ∧
    (s.take c k).state =
      (if (s.take c k).answer.isFound then (s.lookup c k false).state.erase k
       else (s.lookup c k false).state) ∧
    ((s.take c k).answer.isFound → (s.lookup c k false).state = (s.maybeSweep c).state) ∧
    ∀ x, (s.maybeSweep c).state.find? k = some x → x.expires.ms ≤ c.now.ms →
      (s.lookup c k false).state = (s.maybeSweep c).state.erase k ∧
        (s.take c k).state = (s.maybeSweep c).state.erase k := by
  have hread : s.lookup c k false = s.read c k := rfl
  rw [hread]
  refine ⟨read_answer s c k,
    fun k' hk' => ⟨under_read_of_ne (Ne.symm hk'), under_take_of_ne (Ne.symm hk')⟩, ?_⟩
  rcases keyedReads_cases s c k with ⟨hf, hans, htake, hrd⟩ |
    ⟨x, hf, hexp, hans, htake, hrd⟩ | ⟨x, hf, hlive, hans, htake, hrd⟩
  · -- Nothing under the key: neither read changes the swept store.
    rw [hans, htake, hrd]
    refine ⟨rfl, fun h => absurd h (by simp [Lookup.isFound]), fun y hy _ => ?_⟩
    rw [hf] at hy
    cases hy
  · -- An expired entry: both reads remove it.
    rw [hans, htake, hrd]
    exact ⟨rfl, fun h => absurd h (by simp [Lookup.isFound]), fun _ _ _ => ⟨rfl, rfl⟩⟩
  · -- A live entry: only the consuming read removes it.
    rw [hans, htake, hrd]
    refine ⟨rfl, fun _ => rfl, fun y hy hexp => ?_⟩
    rw [hf] at hy
    cases hy
    omega

end Store

end CredentialCache
