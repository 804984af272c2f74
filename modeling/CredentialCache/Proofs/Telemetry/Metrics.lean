import CredentialCache.Proofs.Telemetry.Reports
import CredentialCache.Stores
/-!
# The counters track the operations

Counters recorded from the start of a run of a cache hold exactly what its operations did: the
sweep series of the cache's store moves with the store's own sweep count, the removed-entries
series is the sum of what its sweeps removed, and the series of issued and redeemed codes, refused
redemptions, created tokens and deleted tokens count the calls that answered or found so. The
same holds for the stores of an application run together: its two caches report under two names,
and each report lands on one series, so neither cache's calls move the other's series.
-/

namespace CredentialCache

namespace CodeCache

variable {α : Type}

theorem name_perform (cache : CodeCache α) (c : Clock) (call : CodeCall α) :
    (cache.perform c call).state.store.name = cache.store.name :=
  perform_store (fun s => s.name = cache.store.name)
    (fun s call' _ h => (Store.name_perform s c call').trans h) rfl call

variable {c : Clock}

theorem gain_sweptEntries (cache : CodeCache α) (call : CodeCall α) :
    Event.gain (.sweptEntries cache.store.name) (cache.perform c call).events =
      cache.sweptBy c call := by
  rw [gain_perform]
  simp [sweptBy, Event.weight, Series.sweeps, Series.sweptEntries, Series.codesIssued,
    Series.codesRedeemed, Series.codesRejected]

private theorem gain_codesIssued (cache : CodeCache α) (call : CodeCall α) :
    Event.gain .codesIssued (cache.perform c call).events =
      if (cache.perform c call).answer.isIssued then 1 else 0 := by
  rw [gain_perform]
  simp [Event.weight, Series.sweeps, Series.sweptEntries, Series.codesIssued,
    Series.codesRedeemed, Series.codesRejected]

private theorem gain_codesRedeemed (cache : CodeCache α) (call : CodeCall α) :
    Event.gain .codesRedeemed (cache.perform c call).events =
      if (cache.perform c call).answer.isRedeemed then 1 else 0 := by
  rw [gain_perform]
  simp [Event.weight, Series.sweeps, Series.sweptEntries, Series.codesIssued,
    Series.codesRedeemed, Series.codesRejected]

private theorem gain_codesRejected (cache : CodeCache α) (call : CodeCall α) (r : RejectReason) :
    Event.gain (.codesRejected r) (cache.perform c call).events =
      if cache.rejects c r call then 1 else 0 := by
  rw [gain_perform]
  cases r <;> simp [Event.weight, Series.sweeps, Series.sweptEntries, Series.codesIssued,
    Series.codesRedeemed, Series.codesRejected, RejectReason.label]

def ReportsOn (name : String) (x : Series) : Prop :=
  x = .sweeps name ∨ x = .sweptEntries name ∨ x = .codesIssued ∨ x = .codesRedeemed ∨
    ∃ r, x = .codesRejected r

theorem gain_eq_zero (cache : CodeCache α) (call : CodeCall α) {x : Series}
    (hx : ¬ReportsOn cache.store.name x) : Event.gain x (cache.perform c call).events = 0 := by
  simp only [ReportsOn, not_or, not_exists] at hx
  obtain ⟨hs, he, hi, hr, hj⟩ := hx
  rw [gain_perform]
  simp [Event.weight, hs, he, hi, hr, hj]

/-- Counters `m` count the run of a code cache on some calls: the store's sweeps and what they
removed, the issues that answered a code, the redeems that handed back a grant, and the redeems
that found their code expired or absent. -/
structure CountedBy (cache : CodeCache α) (calls : List (Clock × CodeCall α)) (m : Counters) :
    Prop where
  sweeps : m.value (.sweeps cache.store.name) + cache.store.sweeps =
    (Run.final step cache calls).store.sweeps
  sweptEntries : m.value (.sweptEntries cache.store.name) =
    Run.total step (fun cache x => cache.sweptBy x.1 x.2) cache calls
  issued : m.value .codesIssued = (Run.trace step cache calls).countP (·.2.isIssued)
  redeemed : m.value .codesRedeemed = (Run.trace step cache calls).countP (·.2.isRedeemed)
  rejected : ∀ r, m.value (.codesRejected r) =
    Run.total step (fun cache x => if cache.rejects x.1 r x.2 then 1 else 0) cache calls

theorem CountedBy.congr {cache : CodeCache α} {calls : List (Clock × CodeCall α)} {m m' : Counters}
    (h : cache.CountedBy calls m) (hm : ∀ x, ReportsOn cache.store.name x → m'.value x = m.value x) :
    cache.CountedBy calls m' where
  sweeps := by rw [hm _ (.inl rfl)]; exact h.sweeps
  sweptEntries := (hm _ (.inr (.inl rfl))).trans h.sweptEntries
  issued := (hm _ (.inr (.inr (.inl rfl)))).trans h.issued
  redeemed := (hm _ (.inr (.inr (.inr (.inl rfl))))).trans h.redeemed
  rejected r := (hm _ (.inr (.inr (.inr (.inr ⟨r, rfl⟩))))).trans (h.rejected r)

section Run

variable (cache : CodeCache α) (calls : List (Clock × CodeCall α))

theorem name_step (s : CodeCache α) (k : Clock × CodeCall α) (h : s.store.name = cache.store.name) :
    (step s k).state.store.name = cache.store.name :=
  (name_perform s k.1 k.2).trans h

/-- Counters recorded from the start of a run of a code cache count it. -/
theorem countedBy_metrics : cache.CountedBy calls (Run.metrics step cache calls) := by
  -- Each series but the sweeps' is a measure of the calls; the sweeps' telescopes into the store's.
  refine ⟨?_, ?_, ?_, ?_, ?_⟩
  · rw [Run.metrics_value]
    refine Run.total_add_eq step _ (name_step cache) _ (fun s => s.store.sweeps) (fun s k h => ?_)
      rfl calls
    rw [← h]
    exact sweeps_accounted (c := k.1) s k.2
  · exact Run.metrics_value_eq_total step _ (name_step cache)
      (fun s k h => by rw [step, ← h, gain_sweptEntries]) rfl calls
  · rw [← Run.total_answer_count]
    exact Run.metrics_value_eq_total step _ (name_step cache)
      (fun s k _ => gain_codesIssued s k.2) rfl calls
  · rw [← Run.total_answer_count]
    exact Run.metrics_value_eq_total step _ (name_step cache)
      (fun s k _ => gain_codesRedeemed s k.2) rfl calls
  · exact fun r => Run.metrics_value_eq_total step _ (name_step cache)
      (fun s k _ => gain_codesRejected s k.2 r) rfl calls

theorem metrics_value_eq_zero {x : Series} (hx : ¬ReportsOn cache.store.name x) :
    (Run.metrics step cache calls).value x = 0 := by
  rw [Run.metrics_value_eq_total step _ (name_step cache)
    (fun s k h => gain_eq_zero s k.2 (h ▸ hx)) rfl calls, Run.total_zero]

end Run

end CodeCache

namespace DeleteReason

def isBulk : DeleteReason → Bool
  | .zone _ | .origin _ _ | .user _ _ | .client _ _ => true
  | _ => false

private theorem label_ne_of_isBulk {r : DeleteReason} (hr : r.isBulk) :
    r.label ≠ revoked.label ∧ ∀ id, r.label ≠ (expired id).label := by
  cases r <;> simp_all [isBulk, label]

end DeleteReason

private theorem TokenCall.isBulk_of_bulkReason? {β : Type} {call : TokenCall β} {r : DeleteReason}
    (h : call.bulkReason? = some r) : r.isBulk := by
  cases call <;> simp only [bulkReason?, reduceCtorEq, Option.some.injEq] at h <;> subst h <;> rfl

namespace TokenCache

variable {β : Type} {c : Clock}

theorem name_perform (cache : TokenCache β) (c : Clock) (call : TokenCall β) :
    (cache.perform c call).state.store.name = cache.store.name := by
  rw [perform_store]
  exact Store.name_perform cache.store c _

/-- The tokens that a bulk revocation of the same kind as `r` answered it removed; nothing for
other calls. -/
def bulkRemoved (r : DeleteReason) (x : (Clock × TokenCall β) × TokenReply β) : Nat :=
  match x.1.2.bulkReason?, x.2 with
  | some r', .count n => if r'.label = r.label then n else 0
  | _, _ => 0

private theorem expiredGain_eq_zero (cache : TokenCache β) (call : TokenCall β) {x : Series}
    (hx : ∀ id, x ≠ .tokensDeleted (.expired id)) : cache.expiredGain x c call = 0 := by
  unfold expiredGain
  split <;> simp [hx]

private theorem bulkGain_eq_zero (call : TokenCall β) (answer : TokenReply β) {x : Series}
    (hx : ∀ r : DeleteReason, r.isBulk → x ≠ .tokensDeleted r) : bulkGain x call answer = 0 := by
  unfold bulkGain
  split
  · rename_i r n hr
    simp [hx r (TokenCall.isBulk_of_bulkReason? hr)]
  · rfl

theorem gain_sweptEntries (cache : TokenCache β) (call : TokenCall β) :
    Event.gain (.sweptEntries cache.store.name) (cache.perform c call).events =
      cache.store.sweptBy c (call.onStore cache.zones) := by
  rw [gain_perform,
    expiredGain_eq_zero cache call (by simp [Series.sweptEntries, Series.tokensDeleted]),
    bulkGain_eq_zero call _ (by simp [Series.sweptEntries, Series.tokensDeleted])]
  simp [Store.sweptBy, Event.weight, Series.sweeps, Series.sweptEntries, Series.tokensCreated,
    Series.tokensDeleted]

private theorem gain_tokensCreated (cache : TokenCache β) (call : TokenCall β) :
    Event.gain .tokensCreated (cache.perform c call).events =
      if call.isCreate && (cache.perform c call).answer.isToken then 1 else 0 := by
  rw [gain_perform,
    expiredGain_eq_zero cache call (by simp [Series.tokensCreated, Series.tokensDeleted]),
    bulkGain_eq_zero call _ (by simp [Series.tokensCreated, Series.tokensDeleted])]
  simp [Event.weight, Series.sweeps, Series.sweptEntries, Series.tokensCreated,
    Series.tokensDeleted]

private theorem gain_revoked (cache : TokenCache β) (call : TokenCall β) :
    Event.gain (.tokensDeleted .revoked) (cache.perform c call).events =
      if (cache.perform c call).answer.isDeleted then 1 else 0 := by
  rw [gain_perform,
    expiredGain_eq_zero cache call (by simp [Series.tokensDeleted, DeleteReason.label]),
    bulkGain_eq_zero call _
      (fun r hr => by simp [Series.tokensDeleted, (DeleteReason.label_ne_of_isBulk hr).1.symm])]
  simp [Event.weight, Series.sweeps, Series.sweptEntries, Series.tokensCreated,
    Series.tokensDeleted, DeleteReason.label]

private theorem gain_expired (cache : TokenCache β) (call : TokenCall β) (id : String) :
    Event.gain (.tokensDeleted (.expired id)) (cache.perform c call).events =
      if (cache.expiredOnRead c call).isSome then 1 else 0 := by
  rw [gain_perform]
  have hexp : cache.expiredGain (.tokensDeleted (.expired id)) c call =
      if (cache.expiredOnRead c call).isSome then 1 else 0 := by
    unfold expiredGain
    split <;> simp [Series.tokensDeleted, DeleteReason.label, *]
  rw [hexp, bulkGain_eq_zero call _
    (fun r hr => by simp [Series.tokensDeleted, ((DeleteReason.label_ne_of_isBulk hr).2 id).symm])]
  simp [Event.weight, Series.sweeps, Series.sweptEntries, Series.tokensCreated,
    Series.tokensDeleted, DeleteReason.label]

private theorem gain_bulk (cache : TokenCache β) (call : TokenCall β) {r : DeleteReason}
    (hr : r.isBulk) :
    Event.gain (.tokensDeleted r) (cache.perform c call).events =
      bulkRemoved r ((c, call), (cache.perform c call).answer) := by
  have hlabel := DeleteReason.label_ne_of_isBulk hr
  have hexp : cache.expiredGain (.tokensDeleted r) c call = 0 :=
    expiredGain_eq_zero cache call fun id => by simp [Series.tokensDeleted, hlabel.2 id]
  have hbulk : bulkGain (.tokensDeleted r) call (cache.perform c call).answer =
      bulkRemoved r ((c, call), (cache.perform c call).answer) := by
    unfold bulkGain bulkRemoved
    generalize (cache.perform c call).answer = ans
    cases call.bulkReason? <;> cases ans <;> simp [Series.tokensDeleted, eq_comm]
  rw [gain_perform, hexp, hbulk]
  simp [Event.weight, Series.sweeps, Series.sweptEntries, Series.tokensCreated,
    Series.tokensDeleted, hlabel.1]

def ReportsOn (name : String) (x : Series) : Prop :=
  x = .sweeps name ∨ x = .sweptEntries name ∨ x = .tokensCreated ∨ ∃ r, x = .tokensDeleted r

theorem gain_eq_zero (cache : TokenCache β) (call : TokenCall β) {x : Series}
    (hx : ¬ReportsOn cache.store.name x) : Event.gain x (cache.perform c call).events = 0 := by
  simp only [ReportsOn, not_or, not_exists] at hx
  obtain ⟨hs, he, hc, hd⟩ := hx
  rw [gain_perform, expiredGain_eq_zero cache call fun id => hd _,
    bulkGain_eq_zero call _ fun r _ => hd r]
  simp [Event.weight, hs, he, hc, hd]

/-- Counters `m` count the run of a token cache on some calls: the store's sweeps and what they
removed, the creations that answered a token, the deletions by id that found one, the reads that
found their token expired, and per kind of bulk revocation the tokens those revocations removed. -/
structure CountedBy (cache : TokenCache β) (calls : List (Clock × TokenCall β)) (m : Counters) :
    Prop where
  sweeps : m.value (.sweeps cache.store.name) + cache.store.sweeps =
    (Run.final step cache calls).store.sweeps
  sweptEntries : m.value (.sweptEntries cache.store.name) =
    Run.total step (fun cache x => cache.store.sweptBy x.1 (x.2.onStore cache.zones)) cache calls
  created : m.value .tokensCreated =
    (Run.trace step cache calls).countP fun x => x.1.2.isCreate && x.2.isToken
  revoked : m.value (.tokensDeleted .revoked) = (Run.trace step cache calls).countP (·.2.isDeleted)
  expired : ∀ id, m.value (.tokensDeleted (.expired id)) =
    Run.total step (fun cache x => if (cache.expiredOnRead x.1 x.2).isSome then 1 else 0) cache calls
  bulk : ∀ r : DeleteReason, r.isBulk →
    m.value (.tokensDeleted r) = Run.tally (bulkRemoved r) (Run.trace step cache calls)

theorem CountedBy.congr {cache : TokenCache β} {calls : List (Clock × TokenCall β)} {m m' : Counters}
    (h : cache.CountedBy calls m) (hm : ∀ x, ReportsOn cache.store.name x → m'.value x = m.value x) :
    cache.CountedBy calls m' where
  sweeps := by rw [hm _ (.inl rfl)]; exact h.sweeps
  sweptEntries := (hm _ (.inr (.inl rfl))).trans h.sweptEntries
  created := (hm _ (.inr (.inr (.inl rfl)))).trans h.created
  revoked := (hm _ (.inr (.inr (.inr ⟨_, rfl⟩)))).trans h.revoked
  expired id := (hm _ (.inr (.inr (.inr ⟨_, rfl⟩)))).trans (h.expired id)
  bulk r hr := (hm _ (.inr (.inr (.inr ⟨r, rfl⟩)))).trans (h.bulk r hr)

section Run

variable (cache : TokenCache β) (calls : List (Clock × TokenCall β))

theorem name_step (s : TokenCache β) (k : Clock × TokenCall β) (h : s.store.name = cache.store.name) :
    (step s k).state.store.name = cache.store.name :=
  (name_perform s k.1 k.2).trans h

/-- Counters recorded from the start of a run of a token cache count it. -/
theorem countedBy_metrics : cache.CountedBy calls (Run.metrics step cache calls) := by
  -- Each series but the sweeps' is a measure of the calls; the sweeps' telescopes into the store's.
  refine ⟨?_, ?_, ?_, ?_, ?_, ?_⟩
  · rw [Run.metrics_value]
    refine Run.total_add_eq step _ (name_step cache) _ (fun s => s.store.sweeps) (fun s k h => ?_)
      rfl calls
    rw [← h]
    exact sweeps_accounted s k.1 k.2
  · exact Run.metrics_value_eq_total step _ (name_step cache)
      (fun s k h => by rw [step, ← h, gain_sweptEntries]) rfl calls
  · rw [← Run.total_answer_count]
    exact Run.metrics_value_eq_total step _ (name_step cache)
      (fun s k _ => gain_tokensCreated s k.2) rfl calls
  · rw [← Run.total_answer_count]
    exact Run.metrics_value_eq_total step _ (name_step cache)
      (fun s k _ => gain_revoked s k.2) rfl calls
  · exact fun id => Run.metrics_value_eq_total step _ (name_step cache)
      (fun s k _ => gain_expired s k.2 id) rfl calls
  · intro r hr
    rw [← Run.total_answer]
    exact Run.metrics_value_eq_total step _ (name_step cache)
      (fun s k _ => gain_bulk s k.2 hr) rfl calls

theorem metrics_value_eq_zero {x : Series} (hx : ¬ReportsOn cache.store.name x) :
    (Run.metrics step cache calls).value x = 0 := by
  rw [Run.metrics_value_eq_total step _ (name_step cache)
    (fun s k h => gain_eq_zero s k.2 (h ▸ hx)) rfl calls, Run.total_zero]

end Run

end TokenCache

end CredentialCache
