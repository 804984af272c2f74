import CredentialCache.Proofs.Code.Attempts
/-!
# Bounded staleness

A store's gate remembers the reading of the last sweep it let through. Along a run whose clock
never goes back and stays in the calendar range, nothing stored has expired by that reading: the
sweep dropped everything expired then, and whatever was stored since expires after its own
instant, which is no earlier. So once a call has consulted the gate at a reading `r` at least one
interval `I` in, every entry left expires after `r - I`: the gate either swept at `r`, or refused
`r` because it had swept less than `I` before. A code cache sweeps once per ttl, so a code issued
for that ttl is gone once a redeem, or an issue that draws a candidate, comes two ttls after it.
-/

namespace CredentialCache

private theorem Clock.isWord_sub {a b : Int} (ha : Instant.InRange a) (hb : Instant.InRange b) :
    Clock.IsWord (a - b) := by
  unfold Instant.InRange Instant.minMs Instant.maxMs at ha hb
  rw [Clock.isWord_iff]
  omega

namespace Store

variable {α : Type} {s : Store α} {c : Clock} {call : StoreCall α} {t r : Int}

/-- Nothing stored had expired by the last sweep the gate let through: the gate's last reading is
a calendar reading and, unless it is still the initial zero, it is no later than `t` and every
stored entry expires after it. -/
structure SweptClean (t : Int) (s : Store α) : Prop where
  last_inRange : Instant.InRange s.gate.last
  swept : s.gate.last = 0 ∨ (s.gate.last ≤ t ∧ ∀ e ∈ s.entries, s.gate.last < e.expires.ms)

theorem SweptClean.mono (h : s.SweptClean t) (ht : t ≤ r) : s.SweptClean r where
  last_inRange := h.last_inRange
  swept := h.swept.imp_right fun ⟨hle, hall⟩ => ⟨Int.le_trans hle ht, hall⟩

private theorem sweptClean_empty {name : String} {I : Int} (hs : Store.empty name I = .ok s) (t : Int) :
    s.SweptClean t := by
  obtain ⟨hg, -, -⟩ := empty_eq_ok hs
  have hlast := (SweepGate.create_eq_ok hg).2
  exact ⟨by rw [hlast]; decide, .inl hlast⟩

theorem gate_perform_of_refused (h : s.gate.tryAcquire c.reading = none) :
    (s.perform c call).state.gate = s.gate := by
  rw [(perform_gate_sweeps s c call).1, h]
  simp

private theorem interval_perform (s : Store α) (c : Clock) (call : StoreCall α) :
    (s.perform c call).state.gate.interval = s.gate.interval := by
  rw [(perform_gate_sweeps s c call).1]
  split
  · cases ha : s.gate.tryAcquire c.reading with
    | none => rfl
    | some g => simp [SweepGate.eq_of_tryAcquire_eq_some ha]
  · rfl

theorem refuses_perform (hc : call.consultsGate = true) :
    (s.perform c call).state.gate.tryAcquire c.reading = none := by
  rw [(perform_gate_sweeps s c call).1, if_pos hc]
  cases ha : s.gate.tryAcquire c.reading with
  | none => exact ha
  | some g =>
    have h0 : Clock.wrapWord 0 = 0 := Clock.wrapWord_of_isWord (Clock.isWord_iff.2 (by omega))
    rw [Option.getD_some, SweepGate.eq_of_tryAcquire_eq_some ha, SweepGate.tryAcquire_eq_none_iff]
    simp only [Int.sub_self, h0]
    exact s.gate.interval_pos

theorem SweptClean.perform (h : s.SweptClean t) (hin : Instant.InRange c.reading)
    (ht : t ≤ c.reading) : (s.perform c call).state.SweptClean c.reading := by
  have hnow : c.now.ms = c.reading := Clock.now_of_inRange hin
  -- Where the gate did not move, kept entries expire after its reading and new ones after now.
  have unmoved : (s.perform c call).state.gate = s.gate →
      (s.perform c call).state.SweptClean c.reading := by
    intro hg
    refine ⟨hg ▸ h.last_inRange, ?_⟩
    rw [hg]
    rcases h.swept with h0 | ⟨hle, hall⟩
    · exact .inl h0
    · refine .inr ⟨by omega, fun e he => ?_⟩
      rcases mem_perform he with ⟨he, -⟩ | hst
      · exact hall e he
      · have := hst.live
        omega
  obtain ⟨hgate, -⟩ := perform_gate_sweeps s c call
  cases hc : call.consultsGate
  · exact unmoved (by simpa [hc] using hgate)
  · cases ha : s.gate.tryAcquire c.reading with
    | none => exact unmoved (by simpa [hc, ha] using hgate)
    | some g =>
      -- The gate let the sweep through: it holds this reading, and every entry left is live.
      have hg : (s.perform c call).state.gate.last = c.reading := by
        simp [hgate, hc, ha, SweepGate.eq_of_tryAcquire_eq_some ha]
      have hrun : s.runsSweep c call = true := by simp [runsSweep, hc, ha]
      refine ⟨hg ▸ hin, .inr ⟨Int.le_of_eq hg, fun e he => ?_⟩⟩
      rw [hg, ← hnow]
      rcases mem_perform he with ⟨-, hlive⟩ | hst
      · exact hlive hrun
      · exact hst.live

/-- Once the gate refuses a reading `r` at least one interval in, every entry left expires after
`r` less the interval: the gate swept less than an interval before `r`. -/
private theorem SweptClean.expires_gt (h : s.SweptClean r) (hr : Instant.InRange r)
    (href : s.gate.tryAcquire r = none) (hI : s.gate.interval ≤ r) :
    ∀ e ∈ s.entries, r - s.gate.interval < e.expires.ms := by
  have hlt : r - s.gate.last < s.gate.interval := by
    rw [← Clock.wrapWord_of_isWord (Clock.isWord_sub hr h.last_inRange)]
    exact SweepGate.tryAcquire_eq_none_iff.1 href
  intro e he
  rcases h.swept with h0 | ⟨-, hall⟩
  · omega
  · have := hall e he
    omega

theorem SweptClean.final {t : Instant} (h : s.SweptClean t.ms) (calls : List (Clock × StoreCall α))
    (hfwd : Clock.Forward t.ms (calls.map (·.1))) :
    (Run.final step s calls).SweptClean (Clock.lastNow t (calls.map (·.1))).ms := by
  refine Run.final_forward step (fun t s => s.SweptClean t.ms) (fun _ => True) ?_ h calls
    (fun _ _ => trivial) hfwd
  intro t s x h _ hin ht
  rw [Clock.now_of_inRange hin]
  exact h.perform hin ht

private theorem SweptClean.expires_gt_after {t : Instant} (h : s.SweptClean t.ms)
    (calls : List (Clock × StoreCall α)) (c : Clock) (call : StoreCall α)
    (hfwd : Clock.Forward t.ms ((calls ++ [(c, call)]).map (·.1))) (hc : call.consultsGate = true)
    (hI : s.gate.interval ≤ c.reading) :
    ∀ e ∈ (Run.final step s (calls ++ [(c, call)])).entries, c.reading - s.gate.interval < e.expires.ms := by
  rw [List.map_append] at hfwd
  have hin : Instant.InRange c.reading := hfwd.inRange_of_mem c (by simp)
  have hpre := (h.final calls hfwd.of_append).mono hfwd.lastNow_le
  have hint : (Run.final step s calls).gate.interval = s.gate.interval := by
    rw [(final_gate_sweeps s calls).1, SweepGate.afterAll_eq]
  rw [Run.final_append, Run.final_cons, Run.final_nil, ← hint, ← interval_perform _ c call]
  rw [← hint, ← interval_perform _ c call] at hI
  exact (hpre.perform hin (Int.le_refl _)).expires_gt hin (refuses_perform hc) hI

end Store

namespace CodeCache

variable {α : Type} {cache : CodeCache α} {c : Clock} {call : CodeCall α} {t : Int}

/-- Whether a call runs the store's throttled sweep: a redeem always does, an issue does when the
generator hands it a candidate, and an explicit sweep never does. -/
def consultsGate (cache : CodeCache α) : CodeCall α → Bool
  | .redeem _ => true
  | .issue _ | .issueWithTtl _ _ =>
    match cache.generator.generate.1 with
    | .ok _ => true
    | .error _ => false
  | .sweep => false

private theorem sweptClean_perform (h : cache.store.SweptClean t) (hin : Instant.InRange c.reading)
    (ht : t ≤ c.reading) (call : CodeCall α) :
    (cache.perform c call).state.store.SweptClean c.reading :=
  perform_store (Store.SweptClean c.reading) (fun _ _ _ h' => h'.perform hin (Int.le_refl _))
    (h.mono ht) call

private theorem interval_perform_store (cache : CodeCache α) (c : Clock) (call : CodeCall α) :
    (cache.perform c call).state.store.gate.interval = cache.store.gate.interval :=
  perform_store (fun s => s.gate.interval = cache.store.gate.interval)
    (fun s call' _ h => (Store.interval_perform s c call').trans h) rfl call

theorem refuses_perform (hc : cache.consultsGate call = true) :
    (cache.perform c call).state.store.gate.tryAcquire c.reading = none := by
  -- Past the first conditional write of an issue, the gate no longer moves at this reading.
  have hkeep : ∀ (s : Store (IssuedCode α)) (call' : StoreCall (IssuedCode α)),
      StoreCall.FilesCodes c.now call' →
      s.gate.tryAcquire c.reading = none →
        (s.perform c call').state.gate.tryAcquire c.reading = none :=
    fun s call' _ h => by rw [Store.gate_perform_of_refused h]; exact h
  have hissue : ∀ g ttl, cache.consultsGate (.issueWithTtl g ttl) = true →
      (cache.issueWithTtl c g ttl).state.store.gate.tryAcquire c.reading = none := by
    intro g ttl hc
    rcases hgen : cache.generator.generate with ⟨res, gen⟩
    cases res with
    | error e => simp [consultsGate, hgen] at hc
    | ok code =>
      exact issueAttempts_store_of_generate (fun s => s.gate.tryAcquire c.reading = none) hkeep
        hgen (Store.refuses_perform rfl)
  cases call with
  | issue g => exact hissue g cache.ttl hc
  | issueWithTtl g ttl => exact hissue g ttl hc
  | redeem code =>
    simp only [perform, Outcome.state_mapAnswer, redeem_store]
    exact Store.refuses_perform rfl
  | sweep => simp [consultsGate] at hc

theorem SweptClean.final {t : Instant} (h : cache.store.SweptClean t.ms)
    (calls : List (Clock × CodeCall α)) (hfwd : Clock.Forward t.ms (calls.map (·.1))) :
    (Run.final step cache calls).store.SweptClean (Clock.lastNow t (calls.map (·.1))).ms := by
  refine Run.final_forward step (fun t cache => cache.store.SweptClean t.ms) (fun _ => True) ?_ h
    calls (fun _ _ => trivial) hfwd
  intro t cache x h _ hin ht
  rw [Clock.now_of_inRange hin]
  exact sweptClean_perform h hin ht x.2

private theorem interval_final (cache : CodeCache α) (calls : List (Clock × CodeCall α)) :
    (Run.final step cache calls).store.gate.interval = cache.store.gate.interval := by
  induction calls generalizing cache with
  | nil => rfl
  | cons x calls ih => rw [Run.final_cons, ih, step, interval_perform_store]

end CodeCache

namespace Store

variable {α β : Type}

/-- Bounded staleness. Along every run of a new store whose clock never goes back and stays in
the calendar range, the gate has let no sweep through yet, or every stored entry expires after
the reading of the last sweep it let through. So after a call that consults the gate at a reading
`r` at least one sweep interval `I` in, every entry left expires after `r - I`. In a new code
cache, whose sweep interval is its ttl, after a redeem or an issue that draws a candidate at a
reading `r` at least one ttl in, every stored code expires after `r - ttl`: no code issued for the
cache's ttl two ttls or more before `r` is left. -/
theorem staleness_bounded_by_sweep_interval :
    (∀ (name : String) (I : Int) (s : Store α) (t : Instant) (calls : List (Clock × StoreCall α)),
      Store.empty name I = .ok s → Clock.Forward t.ms (calls.map (·.1)) →
        (Run.final step s calls).gate.last = 0 ∨
          ∀ e ∈ (Run.final step s calls).entries, (Run.final step s calls).gate.last < e.expires.ms) ∧
    (∀ (name : String) (I : Int) (s : Store α) (t : Instant) (calls : List (Clock × StoreCall α))
        (c : Clock) (call : StoreCall α),
      Store.empty name I = .ok s → Clock.Forward t.ms ((calls ++ [(c, call)]).map (·.1)) →
        call.consultsGate = true → I ≤ c.reading →
          ∀ e ∈ (Run.final step s (calls ++ [(c, call)])).entries, c.reading - I < e.expires.ms) ∧
    ∀ (name : String) (cache : CodeCache β) (t : Instant) (calls : List (Clock × CodeCall β))
        (c : Clock) (call : CodeCall β),
      Store.empty name cache.ttl = .ok cache.store →
        Clock.Forward t.ms ((calls ++ [(c, call)]).map (·.1)) →
        (Run.final CodeCache.step cache calls).consultsGate call = true → cache.ttl ≤ c.reading →
          ∀ e ∈ (Run.final CodeCache.step cache (calls ++ [(c, call)])).store.entries,
            c.reading - cache.ttl < e.expires.ms ∧
              (e.expires.ms = e.created.ms + cache.ttl → c.reading < e.created.ms + 2 * cache.ttl) := by
  -- A new store's gate has the given interval.
  have interval_empty : ∀ {γ : Type} {name : String} {I : Int} {s : Store γ},
      Store.empty name I = .ok s → s.gate.interval = I :=
    fun hs => (SweepGate.create_eq_ok (empty_eq_ok hs).1).1
  refine ⟨?_, ?_, ?_⟩
  · intro name I s t calls hs hfwd
    exact ((sweptClean_empty hs t.ms).final calls hfwd).swept.imp_right (·.2)
  · intro name I s t calls c call hs hfwd hc hI
    rw [← interval_empty hs] at hI ⊢
    exact (sweptClean_empty hs t.ms).expires_gt_after calls c call hfwd hc hI
  · intro name cache t calls c call hs hfwd hc hI
    rw [List.map_append] at hfwd
    have hin : Instant.InRange c.reading := hfwd.inRange_of_mem c (by simp)
    have hpre := (CodeCache.SweptClean.final (sweptClean_empty hs t.ms) calls hfwd.of_append).mono
      hfwd.lastNow_le
    -- The interval of the store after the run and the call is still the cache's ttl.
    have hint : ((Run.final CodeCache.step cache calls).perform c call).state.store.gate.interval =
        cache.ttl := by
      rw [CodeCache.interval_perform_store, CodeCache.interval_final, interval_empty hs]
    have hbound := (CodeCache.sweptClean_perform hpre hin (Int.le_refl _) call).expires_gt hin
      (CodeCache.refuses_perform hc) (by rw [hint]; exact hI)
    rw [hint] at hbound
    rw [Run.final_append, Run.final_cons, Run.final_nil]
    intro e he
    have he' := hbound e he
    exact ⟨he', fun hexp => by omega⟩

private def sweptEvery1500 : Store String := { name := "m", gate := ⟨1500, 0, by decide⟩ }

private def lateWrites : List (Clock × StoreCall String) :=
  [(⟨0⟩, .put "a" "x" 700), (⟨1600⟩, .put "b" "y" 200)]

private def codesEvery45s : CodeCache Unit :=
  { store := { name := CodeCache.name, gate := ⟨45000, 0, by decide⟩ },
    generator := .scripted [.code "abc", .code "def"], ttl := 45000 }

theorem staleness_bounded_after_late_write :
    (Store.empty "m" 1500 = .ok sweptEvery1500 ∧
      Clock.Forward Instant.epoch.ms
        ((lateWrites ++ [((⟨2900⟩ : Clock), StoreCall.put "c" "z" 50)]).map (·.1)) ∧
      (StoreCall.put "c" "z" 50 : StoreCall String).consultsGate = true ∧ (1500 : Int) ≤ 2900 ∧
      ∀ e ∈ (Run.final step sweptEvery1500
        (lateWrites ++ [((⟨2900⟩ : Clock), StoreCall.put "c" "z" 50)])).entries,
        2900 - 1500 < e.expires.ms) ∧
    (Store.empty CodeCache.name codesEvery45s.ttl = .ok codesEvery45s.store ∧
      Clock.Forward Instant.epoch.ms
        (([((⟨0⟩ : Clock), CodeCall.issue ⟨none, "app", ()⟩)] ++
          [((⟨90000⟩ : Clock), CodeCall.issue ⟨none, "app", ()⟩)]).map (·.1)) ∧
      (Run.final CodeCache.step codesEvery45s [((⟨0⟩ : Clock), CodeCall.issue ⟨none, "app", ()⟩)]).consultsGate
        (.issue ⟨none, "app", ()⟩) = true ∧ codesEvery45s.ttl ≤ 90000 ∧
      ∀ e ∈ (Run.final CodeCache.step codesEvery45s
          ([((⟨0⟩ : Clock), CodeCall.issue ⟨none, "app", ()⟩)] ++
            [((⟨90000⟩ : Clock), CodeCall.issue ⟨none, "app", ()⟩)])).store.entries,
        90000 - codesEvery45s.ttl < e.expires.ms ∧
          (e.expires.ms = e.created.ms + codesEvery45s.ttl →
            90000 < e.created.ms + 2 * codesEvery45s.ttl)) := by
  have hs : Store.empty "m" 1500 = .ok sweptEvery1500 := rfl
  have hfwd : Clock.Forward Instant.epoch.ms
      ((lateWrites ++ [((⟨2900⟩ : Clock), StoreCall.put "c" "z" 50)]).map (·.1)) := by
    decide
  have hcs : Store.empty CodeCache.name codesEvery45s.ttl = .ok codesEvery45s.store := rfl
  have hcfwd : Clock.Forward Instant.epoch.ms
      (([((⟨0⟩ : Clock), CodeCall.issue ⟨none, "app", ()⟩)] ++
        [((⟨90000⟩ : Clock), CodeCall.issue ⟨none, "app", ()⟩)]).map (·.1)) := by
    decide
  have hconsult : (Run.final CodeCache.step codesEvery45s
      [((⟨0⟩ : Clock), CodeCall.issue ⟨none, "app", ()⟩)]).consultsGate
        (.issue ⟨none, "app", ()⟩) = true := by
    rfl
  exact ⟨⟨hs, hfwd, rfl, by decide,
      (@staleness_bounded_by_sweep_interval String Unit).2.1 "m" 1500 sweptEvery1500 Instant.epoch
        _ _ _ hs hfwd rfl (by decide)⟩,
    ⟨hcs, hcfwd, hconsult, by decide,
      (@staleness_bounded_by_sweep_interval String Unit).2.2 CodeCache.name codesEvery45s
        Instant.epoch _ _ _ hcs hcfwd hconsult (by decide)⟩⟩

end Store

end CredentialCache
