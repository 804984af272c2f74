import Mathlib.Data.List.TakeWhile
import CredentialCache.Proofs.WellFormed
/-!
# Scans over the live tokens

Bulk revocations and queries scan every stored token and look only at those live at the clock's
instant; neither runs the throttled sweep. A bulk revocation drops exactly the live tokens of
its zone that meet its condition, keeps every other entry where it was, and counts what it drops,
so repeating it at once drops nothing and revocations in two zones commute. A query lists each
live token that meets its condition once, and changes nothing; since every token is filed under
its own id, the ids it lists are distinct.
-/

namespace CredentialCache

namespace TokenCache

variable {α : Type} {c : Clock}

/-! ## Bulk revocation -/

/-- A bulk revocation at clock `c` of the tokens that pass `q`: from any cache it drops exactly the
entries live at the clock's instant whose token passes `q`, keeps every other entry in its place
along with the gate, the sweep count and the zone resolver, and answers how many it dropped. -/
structure RevokesLive (c : Clock) (q : RevocableToken α → Bool)
    (revoke : TokenCache α → Outcome (TokenCache α) Nat) : Prop where
  state : ∀ cache, (revoke cache).state =
    { cache with store := { cache.store with
      entries := cache.store.entries.filter fun e => !(e.isLiveAt c.now && q e.value) } }
  answer : ∀ cache, (revoke cache).answer = (cache.store.liveAt c.now).countP (q ·.value)

private theorem deleteLive_revokesLive (c : Clock) (reason : DeleteReason) (z : ZoneId)
    (p : RevocableToken α → Bool) :
    RevokesLive c (fun t => t.zone == z && p t) (deleteLive · c reason z p) where
  state cache := by
    change { cache with store := (cache.store.removeLiveWhere c.now fun t => t.zone == z && p t).2 } = _
    rw [Store.removeLiveWhere, Store.removeWhere_snd]
  answer cache := by
    unfold deleteLive
    exact Store.removeLiveWhere_count cache.store c.now fun t => t.zone == z && p t

theorem RevokesLive.congr {q q' : RevocableToken α → Bool}
    {revoke : TokenCache α → Outcome (TokenCache α) Nat}
    (h : RevokesLive c q revoke) (hq : ∀ t, q t = q' t) : RevokesLive c q' revoke := by
  have hqq : q = q' := funext hq
  subst hqq
  exact h

section Revoke

variable {q q₁ q₂ : RevocableToken α → Bool}
  {revoke revoke₁ revoke₂ : TokenCache α → Outcome (TokenCache α) Nat}

theorem RevokesLive.liveAt (h : RevokesLive c q revoke) (cache : TokenCache α) :
    (revoke cache).state.store.liveAt c.now = (cache.store.liveAt c.now).filter (!q ·.value) := by
  rw [h.state, Store.liveAt, Store.liveAt, List.filter_filter, List.filter_filter]
  apply List.filter_congr
  intro e _
  cases e.isLiveAt c.now <;> simp

theorem RevokesLive.twice (h : RevokesLive c q revoke) (cache : TokenCache α) :
    (revoke (revoke cache).state).answer = 0 ∧
      (revoke (revoke cache).state).state = (revoke cache).state := by
  constructor
  · rw [h.answer, h.liveAt, List.countP_filter, List.countP_eq_zero]
    intro e _
    cases q e.value <;> simp
  · rw [h.state (revoke cache).state, h.state cache]
    simp only [List.filter_filter, Bool.and_self]

/-- Two bulk revocations whose tests no token passes both commute, and each drops the same
entries whichever runs first. -/
private theorem RevokesLive.comm (h₁ : RevokesLive c q₁ revoke₁) (h₂ : RevokesLive c q₂ revoke₂)
    (hdisj : ∀ t, q₁ t = true → q₂ t = false) (cache : TokenCache α) :
    (revoke₂ (revoke₁ cache).state).state = (revoke₁ (revoke₂ cache).state).state ∧
      (revoke₂ (revoke₁ cache).state).answer = (revoke₂ cache).answer := by
  constructor
  · rw [h₂.state, h₁.state, h₁.state, h₂.state]
    simp only [List.filter_filter]
    congr 3
    funext e
    rw [Bool.and_comm]
  · rw [h₂.answer, h₂.answer, h₁.liveAt, List.countP_filter]
    apply List.countP_congr
    intro e _
    -- Only a token that passes `q₂` counts, and it cannot pass `q₁` as well.
    cases h₁q : q₁ e.value
    · simp
    · simp [hdisj _ h₁q]

end Revoke

end TokenCache

namespace TokenCall

variable {α : Type}

def bulkZone? : TokenCall α → Option ZoneId
  | .deleteByZone z | .deleteByOrigin _ z | .deleteByUser _ z | .deleteByClient _ z => some z
  | _ => none

end TokenCall

namespace TokenCache

variable {α : Type} {c : Clock} {b b₁ b₂ : TokenCall α} {z z₁ z₂ : ZoneId}

private theorem perform_of_bulkZone (hb : b.bulkZone? = some z) :
    ∃ q : RevocableToken α → Bool, (∀ t, q t = true → t.zone = z) ∧
      ∃ revoke, RevokesLive c q revoke ∧
        ∀ cache : TokenCache α, cache.perform c b = (revoke cache).mapAnswer .count := by
  have hzone : ∀ p : RevocableToken α → Bool, ∀ t, (t.zone == z && p t) = true → t.zone = z := by
    intro p t ht
    simp only [Bool.and_eq_true, beq_iff_eq] at ht
    exact ht.1
  cases b with
  | deleteByZone z' =>
    cases hb
    exact ⟨_, hzone _, _, deleteLive_revokesLive c _ _ _, fun _ => rfl⟩
  | deleteByOrigin o z' =>
    cases hb
    exact ⟨_, hzone _, _, deleteLive_revokesLive c _ _ _, fun _ => rfl⟩
  | deleteByUser u z' =>
    cases hb
    exact ⟨_, hzone _, _, deleteLive_revokesLive c _ _ _, fun _ => rfl⟩
  | deleteByClient cl z' =>
    cases hb
    exact ⟨_, hzone _, _, deleteLive_revokesLive c _ _ _, fun _ => rfl⟩
  | _ => cases hb

/-- Bulk revocation is zone-scoped and exact. Revoking a zone, or its tokens from an identity
provider, of a user or of a client, drops exactly the entries live at the clock's instant whose
token is of that zone and meets the condition; every other entry, expired tokens of the zone and
all tokens of other zones included, stays in its place, the gate and the sweep count are left
alone, and the answer is how many were dropped. So a bulk revocation repeated at once drops
nothing, and bulk revocations in different zones commute, each dropping what it would alone. -/
theorem bulk_revocation_zone_scoped (c : Clock) (z : ZoneId) (o u cl : String) :
    RevokesLive c (fun t => decide (t.zone = z))
        (fun cache : TokenCache α => cache.deleteByZone c z) ∧
      RevokesLive c (fun t => decide (t.zone = z ∧ t.origin = some o))
        (fun cache : TokenCache α => cache.deleteByOrigin c o z) ∧
      RevokesLive c (fun t => decide (t.zone = z ∧ t.userId = u))
        (fun cache : TokenCache α => cache.deleteByUser c u z) ∧
      RevokesLive c (fun t => decide (t.zone = z ∧ t.clientId = cl))
        (fun cache : TokenCache α => cache.deleteByClient c cl z) ∧
      (∀ (cache : TokenCache α) (b : TokenCall α), b.bulkZone?.isSome →
        ((cache.perform c b).state.perform c b).answer = .count 0) ∧
      ∀ (cache : TokenCache α) (b₁ b₂ : TokenCall α) (z₁ z₂ : ZoneId),
        b₁.bulkZone? = some z₁ → b₂.bulkZone? = some z₂ → z₁ ≠ z₂ →
          ((cache.perform c b₁).state.perform c b₂).state =
              ((cache.perform c b₂).state.perform c b₁).state ∧
            ((cache.perform c b₁).state.perform c b₂).answer = (cache.perform c b₂).answer := by
  refine ⟨?_, ?_, ?_, ?_, ?_, ?_⟩
  · exact (deleteLive_revokesLive c _ z _).congr fun t => Bool.eq_iff_iff.2 (by simp)
  · exact (deleteLive_revokesLive c _ z _).congr fun t => Bool.eq_iff_iff.2 (by simp)
  · exact (deleteLive_revokesLive c _ z _).congr fun t => Bool.eq_iff_iff.2 (by simp)
  · exact (deleteLive_revokesLive c _ z _).congr fun t => Bool.eq_iff_iff.2 (by simp)
  · intro cache b hb
    obtain ⟨z', hz'⟩ := Option.isSome_iff_exists.1 hb
    obtain ⟨q, -, revoke, hrev, hperf⟩ := perform_of_bulkZone (c := c) hz'
    simp only [hperf, Outcome.state_mapAnswer, Outcome.answer_mapAnswer]
    rw [(hrev.twice cache).1]
  · intro cache b₁ b₂ z₁ z₂ hb₁ hb₂ hz
    obtain ⟨q₁, hq₁, revoke₁, hrev₁, hperf₁⟩ := perform_of_bulkZone (c := c) hb₁
    obtain ⟨q₂, hq₂, revoke₂, hrev₂, hperf₂⟩ := perform_of_bulkZone (c := c) hb₂
    -- A token passes at most one of the tests: they name different zones.
    have hdisj : ∀ t, q₁ t = true → q₂ t = false := by
      intro t h₁
      cases h₂ : q₂ t
      · rfl
      · exact absurd ((hq₁ t h₁).symm.trans (hq₂ t h₂)) hz
    obtain ⟨hstate, hanswer⟩ := hrev₁.comm hrev₂ hdisj cache
    simp only [hperf₁, hperf₂, Outcome.state_mapAnswer, Outcome.answer_mapAnswer]
    exact ⟨hstate, by rw [hanswer]⟩

private def tokensOfTwoZones : TokenCache Unit where
  store :=
    { name := name
      gate := ⟨90000, 0, by decide⟩
      entries :=
        [⟨"t1", ⟨"t1", "ann", "app", ⟨"a"⟩, none, .access, .jwt, [], Instant.epoch,
            ⟨6000, by decide, by decide⟩, ()⟩, Instant.epoch, ⟨6000, by decide, by decide⟩⟩,
          ⟨"t2", ⟨"t2", "ann", "app", ⟨"b"⟩, none, .access, .jwt, [], Instant.epoch,
            ⟨6000, by decide, by decide⟩, ()⟩, Instant.epoch, ⟨6000, by decide, by decide⟩⟩,
          ⟨"t3", ⟨"t3", "bob", "app", ⟨"a"⟩, none, .access, .jwt, [], Instant.epoch,
            ⟨1200, by decide, by decide⟩, ()⟩, Instant.epoch, ⟨1200, by decide, by decide⟩⟩] }
  zones := .fixed ⟨"a"⟩

theorem revocations_in_two_zones_commute :
    (TokenCall.deleteByZone ⟨"a"⟩ : TokenCall Unit).bulkZone? = some ⟨"a"⟩ ∧
      (TokenCall.deleteByUser "ann" ⟨"b"⟩ : TokenCall Unit).bulkZone? = some ⟨"b"⟩ ∧
      (⟨"a"⟩ : ZoneId) ≠ ⟨"b"⟩ ∧
      ((tokensOfTwoZones.perform ⟨2000⟩ (.deleteByZone ⟨"a"⟩)).state.perform ⟨2000⟩
            (.deleteByUser "ann" ⟨"b"⟩)).state =
          ((tokensOfTwoZones.perform ⟨2000⟩ (.deleteByUser "ann" ⟨"b"⟩)).state.perform ⟨2000⟩
            (.deleteByZone ⟨"a"⟩)).state ∧
        ((tokensOfTwoZones.perform ⟨2000⟩ (.deleteByZone ⟨"a"⟩)).state.perform ⟨2000⟩
            (.deleteByUser "ann" ⟨"b"⟩)).answer =
          (tokensOfTwoZones.perform ⟨2000⟩ (.deleteByUser "ann" ⟨"b"⟩)).answer :=
  ⟨rfl, rfl, by decide,
    (bulk_revocation_zone_scoped ⟨2000⟩ ⟨"a"⟩ "" "" "").2.2.2.2.2 tokensOfTwoZones _ _ _ _
      rfl rfl (by decide)⟩

end TokenCache

/-! ## Queries -/

private theorem trimWhiteList_eq_nil_iff {cs : List Char} :
    trimWhiteList cs = [] ↔ ∀ ch ∈ cs, isWhiteSpace ch = true := by
  unfold trimWhiteList
  rw [List.reverse_eq_nil_iff, List.dropWhile_eq_nil_iff]
  constructor
  · intro h ch hch
    -- A character past the leading white space lies in the rest, which is white space too.
    rw [← List.takeWhile_append_dropWhile (p := isWhiteSpace) (l := cs), List.mem_append] at hch
    rcases hch with hlead | hrest
    · exact List.mem_takeWhile_imp hlead
    · exact h ch (List.mem_reverse.2 hrest)
  · intro h ch hch
    have hnil : cs.dropWhile isWhiteSpace = [] := List.dropWhile_eq_nil_iff.2 h
    simp [hnil] at hch

private theorem isBlank_iff_trimWhite_eq_empty {s : String} : isBlank s = true ↔ trimWhite s = "" := by
  unfold isBlank trimWhite
  rw [String.ofList_eq_empty_iff, trimWhiteList_eq_nil_iff, String.all_bool_eq, List.all_eq_true]

namespace TokenCache

variable {α : Type} {c : Clock} {cache : TokenCache α}

/-- A listing of the tokens of the entries of `s` live at `now` that pass `q`: each such entry's
token once, in some order, and nothing else; no token id is listed twice. -/
structure ListsLive (s : Store (RevocableToken α)) (now : Instant) (q : RevocableToken α → Bool)
    (ts : List (RevocableToken α)) : Prop where
  perm : ts.Perm (((s.liveAt now).filter (q ·.value)).map (·.value))
  ids_nodup : (ts.map (·.tokenId)).Nodup

/-- With one entry per key and every token filed under its own id, a scan of the live tokens
lists each live token that passes its test exactly once. -/
private theorem liveTokens_listsLive (hk : cache.store.KeysUnique) (hf : TokensFiled cache.store)
    (c : Clock) (q : RevocableToken α → Bool) :
    ListsLive cache.store c.now q (cache.liveTokens c q) where
  perm := by
    rw [liveTokens, Store.collectLive]
    exact (Store.liveEntries_perm cache.store c.now (q ·.value)).map (·.value)
  ids_nodup := by
    -- Each listed token carries its entry's key, and the keys are distinct.
    have hsub : ((cache.store.liveAt c.now).filter (q ·.value)).Sublist cache.store.entries :=
      List.filter_sublist.trans List.filter_sublist
    have hids : (((cache.store.liveAt c.now).filter (q ·.value)).map (·.value)).map (·.tokenId) =
        ((cache.store.liveAt c.now).filter (q ·.value)).map (·.key) := by
      rw [List.map_map]
      apply List.map_congr_left
      intro e he
      exact (hf e (hsub.subset he)).1
    have hperm := ((Store.liveEntries_perm cache.store c.now (q ·.value)).map (·.value)).map
      (·.tokenId)
    rw [liveTokens, Store.collectLive, hperm.nodup_iff, hids]
    exact hk.of_sublist hsub

private theorem filed_final (cache₀ : TokenCache α) (calls : List (Clock × TokenCall α))
    (h₀ : cache₀.store.entries = []) :
    (Run.final step cache₀ calls).store.KeysUnique ∧
      TokensFiled (Run.final step cache₀ calls).store :=
  final_store (fun s => s.KeysUnique ∧ TokensFiled s) cache₀.zones
    (fun c _ call h => ⟨h.1.perform _ _, h.2.perform _ c call⟩) rfl
    ⟨by simp [Store.KeysUnique, h₀], by simp [TokensFiled, h₀]⟩ calls

/-- What the queries of a cache answer at `c`: the live tokens of user `u`, of client `cl`, of the
current zone, and of `u` with `cl` when `cl` is not blank, each listed exactly once; a blank
client is refused as an invalid argument; and neither these queries nor an unchecked read by id
change the cache. -/
structure QueriesExact (cache : TokenCache α) (c : Clock) (u cl id : String)
    (scopes : List ZoneId) : Prop where
  user : ListsLive cache.store c.now (fun t => decide (t.userId = u)) (cache.userTokens c u)
  client : ListsLive cache.store c.now (fun t => decide (t.clientId = cl)) (cache.clientTokens c cl)
  zone : ListsLive cache.store c.now (fun t => decide (t.zone = cache.currentZone scopes))
    (cache.retrieveAll c scopes)
  userClient : trimWhite cl ≠ "" → ∃ ts, cache.userClientTokens c u cl = .ok ts ∧
    ListsLive cache.store c.now (fun t => decide (t.userId = u ∧ t.clientId = cl)) ts
  refused_iff : (∃ msg, cache.userClientTokens c u cl = .error (.invalidArgument msg)) ↔
    trimWhite cl = ""
  readOnly : ∀ call ∈ [TokenCall.userTokens u, .clientTokens cl, .userClientTokens u cl,
    .retrieveAll scopes, .retrieveChecked id false], (cache.perform c call).state = cache

theorem ListsLive.congr {s : Store (RevocableToken α)} {now : Instant}
    {q q' : RevocableToken α → Bool} {ts : List (RevocableToken α)} (h : ListsLive s now q ts)
    (hq : ∀ t, q t = q' t) :
    ListsLive s now q' ts := by
  have hqq : q = q' := funext hq
  subst hqq
  exact h

/-- Token queries are exact and read-only. In every cache reached from an empty store, the tokens
listed for a user, for a client, for a user with a client that is not blank, and for the current
zone are exactly the tokens of the entries live at the clock's instant with that user, client,
both, or zone, each once, so their ids are distinct. Asking for a user with a blank client (one
that trims to nothing) is refused as an invalid argument, and only then. None of these queries,
nor a read by id that skips the expiry check, changes the entries, the gate or the sweep count. -/
theorem token_queries_exact (cache₀ : TokenCache α) (calls : List (Clock × TokenCall α))
    (h₀ : cache₀.store.entries = []) (c : Clock) (u cl id : String) (scopes : List ZoneId) :
    QueriesExact (Run.final step cache₀ calls) c u cl id scopes := by
  obtain ⟨hk, hf⟩ := filed_final cache₀ calls h₀
  have hlists := liveTokens_listsLive hk hf c
  refine ⟨(hlists _).congr fun t => beq_eq_decide _ _, (hlists _).congr fun t => beq_eq_decide _ _,
    (hlists _).congr fun t => beq_eq_decide _ _, ?_, ?_, ?_⟩
  · intro hcl
    have hblank : isBlank cl = false := by
      cases hb : isBlank cl
      · rfl
      · exact absurd (isBlank_iff_trimWhite_eq_empty.1 hb) hcl
    refine ⟨_, by simp only [userClientTokens, hblank, Bool.false_eq_true, if_false],
      (hlists fun t => t.userId == u && t.clientId == cl).congr fun t => ?_⟩
    rw [beq_eq_decide, beq_eq_decide, Bool.decide_and]
  · rw [← isBlank_iff_trimWhite_eq_empty]
    cases hb : isBlank cl <;> simp [userClientTokens, hb]
  · intro call hcall
    simp only [List.mem_cons, List.not_mem_nil, or_false] at hcall
    rcases hcall with rfl | rfl | rfl | rfl | rfl <;> rfl

private def tokensOfZoneA : TokenCache Unit where
  store := { name := name, gate := ⟨75000, 0, by decide⟩ }
  zones := .fixed ⟨"a"⟩

private def annToken (id : String) (e : Nat) (he : e ≤ 1000) : RevocableToken Unit :=
  { tokenId := id, userId := "ann", clientId := "app", kind := .access, issued := Instant.epoch,
    expires := ⟨e * 1000, by unfold Instant.minMs; omega, by unfold Instant.maxMs; omega⟩,
    value := () }

theorem queries_exact_after_two_creates :
    tokensOfZoneA.store.entries = [] ∧
      QueriesExact (Run.final step tokensOfZoneA
        [(⟨0⟩, .create [] (annToken "t1" 1 (by decide))),
          (⟨0⟩, .create [] (annToken "t2" 5 (by decide)))]) ⟨2000⟩ "ann" "app" "t1" [] :=
  ⟨rfl, token_queries_exact _ _ rfl _ _ _ _ _⟩

end TokenCache

end CredentialCache
