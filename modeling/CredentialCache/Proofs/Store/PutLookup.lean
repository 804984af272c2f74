import CredentialCache.Proofs.Store.Frame
import CredentialCache.Proofs.Store.KeyedCalls
/-!
# A written entry until a sweep finds it expired

Once a write stores an entry under a key, calls that leave that entry to the sweeps (keyed calls
on other keys, bulk removals whose test rejects it, and the calls that name no key) keep it under
its key exactly as written. Only a sweep can take it, and a sweep takes it exactly when it runs
at an instant where the entry has expired; since other keys' writes and reads run throttled
sweeps of the whole store, which sweeps ran, and when, is part of the run. A read of the key then
finds the value before the expiry instant; from that instant on it finds the key gone if some
sweep since the write (the read's own included) ran late enough to drop the entry, and finds the
entry expired if none did.
-/

namespace CredentialCache

namespace StoreCall

variable {α : Type}

/-- Whether a call leaves the entry `e` to the sweeps: a keyed call names another key, a bulk
removal's test rejects `e`, and the other calls name no key. -/
def Spares (e : Entry α) : StoreCall α → Prop
  | .put k _ _ | .putUntil k _ _ | .putIfAbsent k _ _ | .take k | .lookup k _ | .remove k =>
    k ≠ e.key
  | .removeWhere p => p e = false
  | .removeLiveWhere p => p e.value = false
  | .get _ | .sweep | .maybeSweep | .liveEntries _ | .collectLive _ | .size => True

instance decidableSpares (e : Entry α) : (call : StoreCall α) → Decidable (call.Spares e)
  | .put k _ _ | .putUntil k _ _ | .putIfAbsent k _ _ | .take k | .lookup k _ | .remove k =>
    inferInstanceAs (Decidable (k ≠ e.key))
  | .removeWhere p => inferInstanceAs (Decidable (p e = false))
  | .removeLiveWhere p => inferInstanceAs (Decidable (p e.value = false))
  | .get _ | .sweep | .maybeSweep | .liveEntries _ | .collectLive _ | .size =>
    inferInstanceAs (Decidable True)

end StoreCall

def Clock.NowForward : Instant → List Clock → Prop
  | _, [] => True
  | t, c :: cs => t.ms ≤ c.now.ms ∧ Clock.NowForward c.now cs

instance Clock.decidableNowForward : (t : Instant) → (cs : List Clock) →
    Decidable (Clock.NowForward t cs)
  | _, [] => .isTrue trivial
  | t, c :: cs =>
    have := Clock.decidableNowForward c.now cs
    inferInstanceAs (Decidable (t.ms ≤ c.now.ms ∧ Clock.NowForward c.now cs))

theorem Clock.NowForward.le_of_mem {t : Instant} {cs : List Clock} (h : Clock.NowForward t cs) :
    ∀ c ∈ cs, t.ms ≤ c.now.ms := by
  induction cs generalizing t with
  | nil => simp
  | cons c cs ih =>
    obtain ⟨ht, hcs⟩ := h
    intro c' hc'
    rcases List.mem_cons.1 hc' with rfl | hc'
    · exact ht
    · exact Int.le_trans ht (ih hcs c' hc')

private theorem Clock.NowForward.le_last {t : Instant} {cs : List Clock} {c : Clock}
    (h : Clock.NowForward t (cs ++ [c])) : ∀ x ∈ cs, x.now.ms ≤ c.now.ms := by
  induction cs generalizing t with
  | nil => simp
  | cons x cs ih =>
    obtain ⟨-, hrest⟩ := h
    intro y hy
    rcases List.mem_cons.1 hy with rfl | hy
    · exact hrest.le_of_mem c (by simp)
    · exact ih hrest y hy

namespace Store

variable {α : Type} {s : Store α} {c : Clock} {call : StoreCall α} {e : Entry α} {k : String}

private theorem runsSweep_of_consultsGate (h : call.consultsGate = true) :
    s.runsSweep c call = (s.gate.tryAcquire c.reading).isSome := by
  simp [runsSweep, h, StoreCall.isSweep_eq_false h]

/-! ## One call -/

private theorem under_perform (hsp : call.Spares e) (hsame : ∀ x ∈ s.under e.key, x = e) :
    (s.perform c call).state.under e.key =
      (s.under e.key).filter fun x => !(s.runsSweep c call && x.isExpiredAt c.now) := by
  -- A call that consults the gate and names another key leaves what its sweep left.
  have swept : call.consultsGate = true →
      (s.perform c call).state.under e.key = (s.maybeSweep c).state.under e.key →
      (s.perform c call).state.under e.key =
        (s.under e.key).filter fun x => !(s.runsSweep c call && x.isExpiredAt c.now) := by
    intro hc h
    rw [h, under_maybeSweep, runsSweep_of_consultsGate hc]
  -- A call that neither sweeps nor drops `e` leaves the key alone.
  have kept : s.runsSweep c call = false → (s.perform c call).state.under e.key = s.under e.key →
      (s.perform c call).state.under e.key =
        (s.under e.key).filter fun x => !(s.runsSweep c call && x.isExpiredAt c.now) := by
    intro hr h
    rw [h, hr]
    simp
  cases call with
  | put k v ttl => exact swept rfl (under_put_of_ne hsp v ttl)
  | putUntil k v x => exact swept rfl (under_putUntil_of_ne hsp v x)
  | putIfAbsent k v ttl => exact swept rfl (under_putIfAbsent_of_ne hsp v ttl)
  | take k => exact swept rfl (under_take_of_ne hsp)
  | lookup k consume =>
    cases consume
    · exact swept rfl (under_read_of_ne hsp)
    · exact swept rfl (under_take_of_ne hsp)
  | maybeSweep => exact swept rfl rfl
  | sweep =>
    simp only [perform, Outcome.state_mapAnswer, sweep, sweepAt_state, runsSweep,
      StoreCall.isSweep, Bool.true_or, Bool.true_and]
    simp only [under, liveAt, List.filter_filter]
    exact List.filter_congr fun x _ => by simp [Entry.isLiveAt, Bool.and_comm]
  | remove k => exact kept rfl (under_erase_of_ne hsp)
  | removeWhere p =>
    -- The test rejects `e`, and `e` is all there is under the key.
    have hp : p e = false := hsp
    refine kept rfl ?_
    change (s.removeWhere p).2.under e.key = s.under e.key
    rw [under_removeWhere]
    exact List.filter_eq_self.2 fun x hx => by rw [hsame x hx]; simp [hp]
  | removeLiveWhere p =>
    have hp : p e.value = false := hsp
    refine kept rfl ?_
    change (s.removeWhere fun x => x.isLiveAt c.now && p x.value).2.under e.key = s.under e.key
    rw [under_removeWhere]
    exact List.filter_eq_self.2 fun x hx => by rw [hsame x hx]; simp [hp]
  | get k => exact kept rfl rfl
  | liveEntries p => exact kept rfl rfl
  | collectLive p => exact kept rfl rfl
  | size => exact kept rfl rfl

/-! ## Whole runs -/

/-- The instants at which the calls of a run sweep the store, in order: explicit sweeps and the
throttled sweeps the gate lets through. -/
def sweepInstants : Store α → List (Clock × StoreCall α) → List Instant
  | _, [] => []
  | s, (c, call) :: calls =>
    if s.runsSweep c call then c.now :: sweepInstants (s.perform c call).state calls
    else sweepInstants (s.perform c call).state calls

private theorem sweepInstants_cons (s : Store α) (c : Clock) (call : StoreCall α)
    (calls : List (Clock × StoreCall α)) :
    s.sweepInstants ((c, call) :: calls) =
      (if s.runsSweep c call then [c.now] else []) ++ (s.perform c call).state.sweepInstants calls := by
  rw [sweepInstants]
  by_cases h : s.runsSweep c call = true <;> simp [h]

private theorem sweepInstants_append (s : Store α) (xs ys : List (Clock × StoreCall α)) :
    s.sweepInstants (xs ++ ys) = s.sweepInstants xs ++ (Run.final step s xs).sweepInstants ys := by
  induction xs generalizing s with
  | nil => rfl
  | cons x xs ih =>
    obtain ⟨c, call⟩ := x
    rw [List.cons_append, sweepInstants_cons, sweepInstants_cons, ih, List.append_assoc]
    rfl

private theorem exists_of_mem_sweepInstants {τ : Instant} {calls : List (Clock × StoreCall α)}
    (h : τ ∈ s.sweepInstants calls) : ∃ x ∈ calls, x.1.now = τ := by
  induction calls generalizing s with
  | nil => simp [sweepInstants] at h
  | cons x calls ih =>
    obtain ⟨c, call⟩ := x
    rw [sweepInstants_cons, List.mem_append] at h
    rcases h with h | h
    · by_cases hr : s.runsSweep c call = true
      · rw [if_pos hr, List.mem_singleton] at h
        exact ⟨(c, call), List.mem_cons_self, h.symm⟩
      · rw [if_neg hr] at h
        cases h
    · obtain ⟨y, hy, hτ⟩ := ih h
      exact ⟨y, List.mem_cons_of_mem _ hy, hτ⟩

/-- Along a run of calls that spare `e`, on a store whose entries under `e`'s key are all `e`,
those entries stay until a sweep runs at an instant where `e` has expired, and then go. -/
private theorem under_final (hsame : ∀ x ∈ s.under e.key, x = e) (calls : List (Clock × StoreCall α))
    (hsp : ∀ x ∈ calls, x.2.Spares e) :
    (Run.final step s calls).under e.key =
      (s.under e.key).filter fun x =>
        !((s.sweepInstants calls).any fun τ => decide (x.expires.ms ≤ τ.ms)) := by
  -- Induction on the run; each call filters the entries under the key once more.
  induction calls generalizing s with
  | nil => simp [sweepInstants]
  | cons x calls ih =>
    obtain ⟨c, call⟩ := x
    have hstep := under_perform (c := c) (hsp _ List.mem_cons_self) hsame
    have hsame' : ∀ y ∈ (s.perform c call).state.under e.key, y = e := by
      intro y hy
      rw [hstep] at hy
      exact hsame y (List.mem_filter.1 hy).1
    have hrest := ih hsame' fun y hy => hsp y (List.mem_cons_of_mem _ hy)
    rw [Run.final_cons, step, hrest, hstep, List.filter_filter, sweepInstants_cons]
    apply List.filter_congr
    intro y _
    by_cases hr : s.runsSweep c call = true <;> simp [hr, Entry.isExpiredAt, Bool.and_comm]

/-! ## A write, then a read -/

private theorem under_of_write_ok {w : StoreCall α} {v : α} {d : Int}
    (hw : w = .put k v d ∨ ∃ x : Instant, w = .putUntil k v x ∧ x.ms = c.now.ms + d)
    (hok : (s.perform c w).answer = .stored (.ok ())) :
    ∃ exp : Instant, exp.ms = c.now.ms + d ∧
      (s.perform c w).state.under k = [⟨k, v, c.now, exp⟩] := by
  rcases hw with rfl | ⟨x, rfl, hx⟩
  · simp only [perform, Outcome.answer_mapAnswer, StoreReply.stored.injEq, put_answer] at hok
    cases hexp : expiryAfter k c.now d with
    | error err =>
      rw [hexp] at hok
      cases hok
    | ok exp =>
      refine ⟨exp, (expiryAfter_eq_ok_iff.1 hexp).2, ?_⟩
      simp only [perform, Outcome.state_mapAnswer, put_state, hexp]
      exact under_insert_self _ _
  · simp only [perform, Outcome.answer_mapAnswer, StoreReply.stored.injEq, putUntil_answer] at hok
    by_cases hle : x ≤ c.now
    · rw [if_pos hle] at hok
      cases hok
    · refine ⟨x, hx, ?_⟩
      simp only [perform, Outcome.state_mapAnswer, putUntil_state, if_neg hle]
      exact under_insert_self _ _

private theorem lookup_answer (s : Store α) (c : Clock) (k : String) (consume : Bool) :
    (s.lookup c k consume).answer = (s.take c k).answer := by
  cases consume
  · exact read_answer s c k
  · rfl

private theorem lookup_of_under_eq_singleton (h : s.under e.key = [e]) (consume : Bool) :
    (s.lookup c e.key consume).answer =
      if c.now.ms < e.expires.ms then .found e.value
      else if (s.gate.tryAcquire c.reading).isSome then .notFound else .expired := by
  rw [lookup_answer, take_answer, find?_eq_head?_under, under_maybeSweep, h]
  by_cases hlive : c.now.ms < e.expires.ms
  · have hexp : e.isExpiredAt c.now = false := by simp [Entry.isExpiredAt, hlive]
    simp [hexp, hlive]
  · have hexp : e.isExpiredAt c.now = true := by
      rw [Entry.isExpiredAt_eq_true]
      omega
    cases (s.gate.tryAcquire c.reading).isSome <;> simp [hexp, hlive]

private theorem lookup_of_under_eq_nil (h : s.under k = []) (consume : Bool) :
    (s.lookup c k consume).answer = .notFound := by
  rw [lookup_answer, take_answer, find?_eq_head?_under, under_maybeSweep, h]
  rfl

private theorem under_final_of_singleton (h : s.under e.key = [e]) (calls : List (Clock × StoreCall α))
    (hsp : ∀ x ∈ calls, x.2.Spares e) :
    (Run.final step s calls).under e.key =
      if ∃ τ ∈ s.sweepInstants calls, e.expires.ms ≤ τ.ms then [] else [e] := by
  have hsame : ∀ x ∈ s.under e.key, x = e := by
    rw [h]
    simp
  rw [under_final hsame calls hsp, h, List.filter_singleton]
  cases hb : (s.sweepInstants calls).any fun τ => decide (e.expires.ms ≤ τ.ms)
  · have hno : ¬ ∃ τ ∈ s.sweepInstants calls, e.expires.ms ≤ τ.ms := by
      simpa [List.any_eq_false] using hb
    rw [if_neg hno]
    rfl
  · have hyes : ∃ τ ∈ s.sweepInstants calls, e.expires.ms ≤ τ.ms := by
      simpa [List.any_eq_true] using hb
    rw [if_pos hyes]
    rfl

/-- A keyed read after such a run, at an instant no earlier than any call of the run: found
before `e` expires; past it, gone if a sweep of the run or the read's own came at or after the
expiry, and expired otherwise. -/
private theorem lookup_final_of_singleton (h : s.under e.key = [e]) (calls : List (Clock × StoreCall α))
    (hsp : ∀ x ∈ calls, x.2.Spares e) (c : Clock) (consume : Bool)
    (hlater : ∀ x ∈ calls, x.1.now.ms ≤ c.now.ms) :
    ((Run.final step s calls).lookup c e.key consume).answer =
      if c.now.ms < e.expires.ms then .found e.value
      else if ∃ τ ∈ s.sweepInstants
          (calls ++ [((c, .lookup e.key consume) : Clock × StoreCall α)]),
          e.expires.ms ≤ τ.ms then .notFound
      else .expired := by
  have hrun := under_final_of_singleton h calls hsp
  -- Every sweep of the run ran at an instant no later than the read's.
  have hbefore : ∀ τ ∈ s.sweepInstants calls, τ.ms ≤ c.now.ms := by
    intro τ hτ
    obtain ⟨x, hx, rfl⟩ := exists_of_mem_sweepInstants hτ
    exact hlater x hx
  have hown : (Run.final step s calls).sweepInstants [(c, StoreCall.lookup e.key consume)] =
      if ((Run.final step s calls).gate.tryAcquire c.reading).isSome then [c.now] else [] := by
    rw [sweepInstants_cons, runsSweep_of_consultsGate rfl]
    simp [sweepInstants]
  rw [sweepInstants_append, hown]
  by_cases hlate : ∃ τ ∈ s.sweepInstants calls, e.expires.ms ≤ τ.ms
  · -- A sweep of the run came late enough to drop the entry, so the read is not early.
    obtain ⟨τ, hτ, hle⟩ := hlate
    have hnot : ¬ c.now.ms < e.expires.ms := by
      have := hbefore τ hτ
      omega
    have hnil : (Run.final step s calls).under e.key = [] := by
      rw [hrun, if_pos ⟨τ, hτ, hle⟩]
    rw [lookup_of_under_eq_nil hnil, if_neg hnot, if_pos ⟨τ, List.mem_append_left _ hτ, hle⟩]
  · -- No sweep has dropped the entry: the read decides on it and on its own sweep.
    have hsingle : (Run.final step s calls).under e.key = [e] := by
      rw [hrun, if_neg hlate]
    rw [lookup_of_under_eq_singleton hsingle consume]
    by_cases hearly : c.now.ms < e.expires.ms
    · rw [if_pos hearly, if_pos hearly]
    · rw [if_neg hearly, if_neg hearly]
      cases hg : ((Run.final step s calls).gate.tryAcquire c.reading).isSome
      · -- The read's sweep does not run: the entry is still there, expired.
        simp only [Bool.false_eq_true, if_false, List.append_nil]
        rw [if_neg hlate]
      · -- The read's own sweep runs at an instant where the entry has expired.
        simp only [if_true]
        rw [if_pos ⟨c.now, List.mem_append_right _ (List.mem_singleton_self _), by omega⟩]

/-- The put-lookup law. Let a write of `v` under `k` succeed at the clock's instant `t`: a store
for a ttl `d`, or a store until the instant `t + d`. Along any calls after it that leave its entry
to the sweeps, the key holds exactly `(k, v, t, t + d)` until a sweep runs at an instant no
earlier than `t + d`, and nothing after that. A read of `k` at a later instant `t'`, with a clock
that never went back, finds `v` if `t' < t + d`; otherwise it finds the key gone if some sweep
since the write, the read's own included, ran at an instant no earlier than `t + d`, and finds
the entry expired if none did. -/
theorem put_then_lookup_law (s : Store α) (c₀ : Clock) (w : StoreCall α) (k : String) (v : α)
    (d : Int) (hw : w = .put k v d ∨ ∃ x : Instant, w = .putUntil k v x ∧ x.ms = c₀.now.ms + d)
    (hok : (s.perform c₀ w).answer = .stored (.ok ())) :
    ∃ exp : Instant, exp.ms = c₀.now.ms + d ∧
      ∀ calls : List (Clock × StoreCall α), (∀ x ∈ calls, x.2.Spares ⟨k, v, c₀.now, exp⟩) →
        (Run.final step (s.perform c₀ w).state calls).under k =
            (if ∃ τ ∈ (s.perform c₀ w).state.sweepInstants calls, exp.ms ≤ τ.ms then []
              else [⟨k, v, c₀.now, exp⟩]) ∧
        ∀ (c : Clock) (consume : Bool), Clock.NowForward c₀.now (calls.map (·.1) ++ [c]) →
          ((Run.final step (s.perform c₀ w).state calls).lookup c k consume).answer =
            if c.now.ms < exp.ms then .found v
            else if ∃ τ ∈ (s.perform c₀ w).state.sweepInstants
                (calls ++ [((c, .lookup k consume) : Clock × StoreCall α)]),
                exp.ms ≤ τ.ms then .notFound
            else .expired := by
  obtain ⟨exp, hms, hunder⟩ := under_of_write_ok hw hok
  refine ⟨exp, hms, fun calls hsp => ⟨?_, fun c consume hfwd => ?_⟩⟩
  · exact under_final_of_singleton (e := ⟨k, v, c₀.now, exp⟩) hunder calls hsp
  · -- The clocks never go back, so every call of the run came no later than the read.
    exact lookup_final_of_singleton (e := ⟨k, v, c₀.now, exp⟩) hunder calls hsp c consume
      fun x hx => hfwd.le_last x.1 (List.mem_map_of_mem hx)

private def sweptEvery2000 : Store Nat := { name := "q", gate := ⟨2000, 0, by decide⟩ }

theorem put_then_lookup_from_epoch :
    (StoreCall.put "k" 5 500 = .put "k" 5 500 ∨ ∃ x : Instant,
      StoreCall.put "k" 5 500 = .putUntil "k" 5 x ∧ x.ms = (Clock.mk 0).now.ms + 500) ∧
    (sweptEvery2000.perform ⟨0⟩ (.put "k" 5 500)).answer = .stored (.ok ()) ∧
    ∃ exp : Instant, exp.ms = (Clock.mk 0).now.ms + 500 ∧
      ∀ calls : List (Clock × StoreCall Nat),
        (∀ x ∈ calls, x.2.Spares ⟨"k", 5, (Clock.mk 0).now, exp⟩) →
        (Run.final step (sweptEvery2000.perform ⟨0⟩ (.put "k" 5 500)).state calls).under "k" =
            (if ∃ τ ∈ (sweptEvery2000.perform ⟨0⟩ (.put "k" 5 500)).state.sweepInstants calls,
                exp.ms ≤ τ.ms then []
              else [⟨"k", 5, (Clock.mk 0).now, exp⟩]) ∧
        ∀ (c : Clock) (consume : Bool), Clock.NowForward (Clock.mk 0).now (calls.map (·.1) ++ [c]) →
          ((Run.final step (sweptEvery2000.perform ⟨0⟩ (.put "k" 5 500)).state calls).lookup
              c "k" consume).answer =
            if c.now.ms < exp.ms then .found 5
            else if ∃ τ ∈ (sweptEvery2000.perform ⟨0⟩ (.put "k" 5 500)).state.sweepInstants
                (calls ++ [((c, .lookup "k" consume) : Clock × StoreCall Nat)]),
                exp.ms ≤ τ.ms then .notFound
            else .expired :=
  ⟨.inl rfl, rfl, put_then_lookup_law sweptEvery2000 ⟨0⟩ (.put "k" 5 500) "k" 5 500 (.inl rfl) rfl⟩

end Store

end CredentialCache
