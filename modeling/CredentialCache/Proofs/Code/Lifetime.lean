import CredentialCache.Proofs.Code.Calls
/-!
# An issued code lives exactly its ttl

Once an issue answers a code, the store holds that code's entry and nothing else under the
code, and keeps the entry while it is live: sweeps drop only expired entries, other issues store
other codes, and redeems of other codes remove only those. While the entry is live no issue can
answer the code, since the conditional write finds the entry there. So, with a clock that never
goes back, the next redeem of the code hands out the grant it was issued for if it comes before
the expiry, and reports an invalid grant from the expiry on, the boundary millisecond included.
-/

namespace CredentialCache

namespace Store

variable {α : Type} {e x : Entry α} {t t' : Instant} {s s' : Store α}

/-- `s` holds no entry under the key of `e` but `e` itself, and holds `e` while it is live at
`t`. -/
structure Keeps (e : Entry α) (t : Instant) (s : Store α) : Prop where
  only : ∀ x ∈ s.entries, x.key = e.key → x = e
  live : t.ms < e.expires.ms → e ∈ s.entries

theorem keeps_insert (s : Store α) (e : Entry α) (t : Instant) : (s.insert e).Keeps e t where
  only x hx hkey := by
    rw [entries_insert, List.mem_cons] at hx
    rcases hx with rfl | hx
    · rfl
    · have hne : x.key ≠ e.key := by simpa using (List.mem_filter.1 hx).2
      exact absurd hkey hne
  live _ := by simp

theorem Keeps.trimmedAt (h : s.Keeps e t) (ht : t.ms ≤ t'.ms) (htrim : s.TrimmedAt t' s') :
    s'.Keeps e t' where
  only x hx hkey := h.only x (htrim.1 x hx) hkey
  live hlive := htrim.2 e (mem_liveAt.2 ⟨h.live (by omega), hlive⟩)

theorem Keeps.insert (h : s.Keeps e t) (hkey : x.key ≠ e.key) : (s.insert x).Keeps e t where
  only y hy hykey := by
    rw [entries_insert, List.mem_cons] at hy
    rcases hy with rfl | hy
    · exact absurd hykey hkey
    · exact h.only y (List.mem_filter.1 hy).1 hykey
  live hlive := by
    rw [entries_insert, List.mem_cons]
    have hne : e.key ≠ x.key := fun h' => hkey h'.symm
    exact .inr (List.mem_filter.2 ⟨h.live hlive, by simpa using hne⟩)

theorem Keeps.find?_key (h : s.Keeps e t) :
    s.find? e.key = some e ∨ (s.find? e.key = none ∧ e.expires.ms ≤ t.ms) := by
  cases hf : s.find? e.key with
  | some y =>
    have hy := List.mem_of_find?_eq_some hf
    have hkey : y.key = e.key := by simpa using List.find?_some hf
    exact .inl (congrArg some (h.only y hy hkey))
  | none =>
    refine .inr ⟨rfl, ?_⟩
    by_contra hlive
    have he := h.live (by omega)
    simp only [find?, List.find?_eq_none, beq_iff_eq] at hf
    exact hf e he rfl

end Store

namespace CodeCache

variable {α : Type} {cache : CodeCache α} {e : Entry (IssuedCode α)} {t : Instant} {clk : Clock}
  {call : CodeCall α}

private theorem keeps_issued {a : Grant α} {d : Int} {code : String}
    (hcall : call = .issueWithTtl a d ∨ call = .issue a ∧ d = cache.ttl)
    (hissued : (cache.perform clk call).answer = .issued (.ok code)) :
    ∃ e : Entry (IssuedCode α), e.key = code ∧ e.value.grant = a ∧
      e.expires.ms = clk.now.ms + d ∧ (cache.perform clk call).state.store.Keeps e clk.now := by
  have hperf : cache.perform clk call = (cache.issueWithTtl clk a d).mapAnswer .issued := by
    rcases hcall with rfl | ⟨rfl, rfl⟩ <;> rfl
  rw [hperf] at hissued ⊢
  simp only [Outcome.answer_mapAnswer, CodeReply.issued.injEq] at hissued
  rcases issueWithTtl_cases cache clk a d with
    ⟨err, hans, -⟩ | ⟨c', s₀, exp, hans, -, -, -, hexp, hst⟩
  · rw [hans] at hissued
    cases hissued
  · rw [hans, Except.ok.injEq] at hissued
    subst hissued
    rw [Outcome.state_mapAnswer, hst]
    exact ⟨_, rfl, rfl, hexp, Store.keeps_insert s₀ _ clk.now⟩

theorem keeps_perform (h : cache.store.Keeps e t) (ht : t.ms ≤ clk.reading)
    (hin : Instant.InRange clk.reading) (hredeem : call ≠ .redeem e.key)
    (hissue : issuedAs e.key ((clk, call), (cache.perform clk call).answer) = none) :
    (cache.perform clk call).state.store.Keeps e clk.now := by
  have ht' : t.ms ≤ clk.now.ms := by rw [Clock.now_of_inRange hin]; exact ht
  rcases perform_cases cache clk call with ⟨g, ttl, hg, hperf⟩ | ⟨c', rfl, hperf⟩ | ⟨rfl, hperf⟩
  · rw [hperf] at hissue ⊢
    simp only [Outcome.answer_mapAnswer, Outcome.state_mapAnswer] at hissue ⊢
    rcases issueWithTtl_cases cache clk g ttl with
      ⟨err, -, htrim⟩ | ⟨c', s, exp, hans, htrim, -, -, -, hst⟩
    · exact h.trimmedAt ht' htrim
    · -- The issued code is another one, so its entry goes in beside the kept one.
      rw [hans] at hissue
      have hkey : c' ≠ e.key := by
        intro hc
        simp [issuedAs, hc, hg] at hissue
      rw [hst]
      exact (h.trimmedAt ht' htrim).insert hkey
  · have hkey : c' ≠ e.key := fun hc => hredeem (by rw [hc])
    have hswept := h.trimmedAt ht' (Store.trimmedAt_maybeSweep cache.store clk)
    rw [hperf, Outcome.state_mapAnswer]
    constructor
    · intro x hx hxkey
      rw [redeem_entries, List.mem_filter] at hx
      exact hswept.only x hx.1 hxkey
    · intro hlive
      rw [redeem_entries, List.mem_filter]
      have hne : e.key ≠ c' := fun h' => hkey h'.symm
      exact ⟨hswept.live hlive, by simpa using hne⟩
  · rw [hperf, Outcome.state_mapAnswer]
    exact h.trimmedAt ht' (sweep_trimmed cache clk)

private theorem issuedAs_eq_none_of_live (h : cache.store.Keeps e t) (ht : t.ms ≤ clk.reading)
    (hin : Instant.InRange clk.reading) (hlive : clk.reading < e.expires.ms) :
    issuedAs e.key ((clk, call), (cache.perform clk call).answer) = none := by
  have hnow := Clock.now_of_inRange hin
  rcases perform_cases cache clk call with ⟨g, ttl, -, hperf⟩ | ⟨c', rfl, hperf⟩ | ⟨rfl, hperf⟩
  · rw [hperf, Outcome.answer_mapAnswer]
    rcases issueWithTtl_cases cache clk g ttl with
      ⟨err, hans, -⟩ | ⟨c', s, exp, hans, htrim, hfree, -, -, -⟩
    · simp [issuedAs, hans]
    · -- Issuing the kept key would need the conditional write to find nothing live there.
      have hkey : c' ≠ e.key := by
        rintro rfl
        rcases (h.trimmedAt (by omega) htrim).find?_key with hf | ⟨-, hexp⟩
        · rw [hf, Option.any_some] at hfree
          have hdead : ¬ e.isLiveAt clk.now = true := by rw [hfree]; decide
          rw [Entry.isLiveAt_eq_true] at hdead
          omega
        · omega
      simp [issuedAs, hans, hkey]
  · rw [hperf]
    simp [issuedAs]
  · rw [hperf]
    simp [issuedAs]

private theorem redeem_of_keeps (h : cache.store.Keeps e t) (ht : t.ms ≤ clk.reading)
    (hin : Instant.InRange clk.reading) :
    (clk.reading < e.expires.ms → (cache.redeem clk e.key).answer = .ok e.value.grant) ∧
      (e.expires.ms ≤ clk.reading →
        ∃ msg, (cache.redeem clk e.key).answer = .error (.invalidGrant msg)) := by
  have hnow := Clock.now_of_inRange hin
  have hs := h.trimmedAt (by omega) (Store.trimmedAt_maybeSweep cache.store clk)
  rw [redeem_answer]
  rcases hs.find?_key with hf | ⟨hf, hexp⟩
  · rw [hf]
    constructor
    · intro hlive
      have hne : ¬ e.isExpiredAt clk.now = true := by
        rw [Entry.isExpiredAt_eq_true]
        omega
      simp [hne]
    · intro hexp
      have hex : e.isExpiredAt clk.now = true := Entry.isExpiredAt_eq_true.2 (by omega)
      exact ⟨s!"Authorization code expired: {e.key}", by simp [hex]⟩
  · rw [hf]
    exact ⟨fun hlive => by omega, fun _ => ⟨_, rfl⟩⟩

/-- A run of calls that neither redeem nor issue the key of a kept entry keeps it, at an instant
no later than the call that follows. -/
theorem keeps_run (h : cache.store.Keeps e t) (ks : List (Clock × CodeCall α))
    (hcalls : ∀ y ∈ Run.trace step cache ks, y.1.2 ≠ .redeem e.key ∧ issuedAs e.key y = none)
    (k : Clock × CodeCall α) (hfwd : Clock.Forward t.ms ((ks ++ [k]).map (·.1))) :
    ∃ t' : Instant, t'.ms ≤ k.1.reading ∧ Instant.InRange k.1.reading ∧
      (Run.final step cache ks).store.Keeps e t' := by
  induction ks generalizing cache t with
  | nil =>
    obtain ⟨hin, ht, -⟩ := hfwd
    exact ⟨t, ht, hin, h⟩
  | cons x ks ih =>
    obtain ⟨clk, call⟩ := x
    obtain ⟨hin, ht, hfwd'⟩ := hfwd
    simp only [Run.trace_cons, List.mem_cons, forall_eq_or_imp] at hcalls
    obtain ⟨⟨hred, hiss⟩, hrest⟩ := hcalls
    have hstep := keeps_perform h ht hin hred hiss
    refine ih hstep hrest ?_
    rw [Clock.now_of_inRange hin]
    exact hfwd'

private theorem expiry_le_of_issuedAs (h : cache.store.Keeps e t) (ks : List (Clock × CodeCall α))
    (hredeem : ∀ x ∈ ks, x.2 ≠ .redeem e.key) (k : Clock × CodeCall α)
    (hfwd : Clock.Forward t.ms ((ks ++ [k]).map (·.1)))
    (hissued : (issuedAs e.key (k, (step (Run.final step cache ks) k).answer)).isSome) :
    e.expires.ms ≤ k.1.reading := by
  induction ks generalizing cache t with
  | nil =>
    simp only [List.nil_append, List.map_cons, List.map_nil] at hfwd
    obtain ⟨hin, ht, -⟩ := hfwd
    by_contra hlive
    have hnone : issuedAs e.key ((k.1, k.2), (cache.perform k.1 k.2).answer) = none :=
      issuedAs_eq_none_of_live h ht hin (by omega)
    simp [Run.final_nil, step, hnone] at hissued
  | cons x ks ih =>
    obtain ⟨clk, call⟩ := x
    simp only [List.cons_append, List.map_cons] at hfwd
    obtain ⟨hin, ht, hfwd'⟩ := hfwd
    by_cases hlive : clk.reading < e.expires.ms
    · -- Still live at this call: it does not answer the key, and the entry is kept.
      have hnone : issuedAs e.key ((clk, call), (cache.perform clk call).answer) = none :=
        issuedAs_eq_none_of_live h ht hin hlive
      have hred := hredeem (clk, call) (by simp)
      have hstep := keeps_perform h ht hin hred hnone
      refine ih hstep (fun x hx => hredeem x (by simp [hx])) ?_ hissued
      rw [Clock.now_of_inRange hin]
      exact hfwd'
    · -- Already expired: the following call comes later still.
      have hk := hfwd'.le_of_mem k.1 (by simp)
      omega

/-- Authorization-code lifetime. Let an issue of grant `a` with ttl `d` (or with the cache's ttl)
answer `code` at a clock reading `t` inside the calendar range, and let the clock never go back
from there. Then, whatever other issues, redeems of other codes and sweeps come between, the next
redeem of `code`, if no issue answered `code` again before it, hands out `a` when it comes before
`t + d` and reports an invalid grant from `t + d` on; and until that redeem no issue made before
`t + d` answers `code`. -/
theorem issued_code_honours_ttl {a : Grant α} {d : Int} {code : String}
    (hcall : call = .issueWithTtl a d ∨ call = .issue a ∧ d = cache.ttl)
    (hissued : (cache.perform clk call).answer = .issued (.ok code))
    (hin : Instant.InRange clk.reading) (post : List (Clock × CodeCall α))
    (hfwd : Clock.Forward clk.reading (post.map (·.1))) :
    (∀ pre y rest, Run.trace step (cache.perform clk call).state post = pre ++ y :: rest →
        y.1.2 = .redeem code → (∀ w ∈ pre, w.1.2 ≠ .redeem code ∧ issuedAs code w = none) →
        (y.1.1.reading < clk.reading + d → y.2 = .redeemed (.ok a)) ∧
          (clk.reading + d ≤ y.1.1.reading → ∃ msg, y.2 = .redeemed (.error (.invalidGrant msg)))) ∧
      ∀ pre y rest, Run.trace step (cache.perform clk call).state post = pre ++ y :: rest →
        (∀ w ∈ pre, w.1.2 ≠ .redeem code) → (issuedAs code y).isSome →
          clk.reading + d ≤ y.1.1.reading := by
  obtain ⟨e, rfl, rfl, hexp, hkeeps⟩ := keeps_issued hcall hissued
  rw [Clock.now_of_inRange hin] at hexp
  -- The calls before the one considered, and the clock up to it.
  have split : ∀ pre y rest, Run.trace step (cache.perform clk call).state post = pre ++ y :: rest →
      ∃ ks₁, Run.trace step (cache.perform clk call).state ks₁ = pre ∧
        (step (Run.final step (cache.perform clk call).state ks₁) y.1).answer = y.2 ∧
        Clock.Forward clk.now.ms ((ks₁ ++ [y.1]).map (·.1)) := by
    intro pre y rest htr
    obtain ⟨ks₁, ks₂, rfl, htr₁, hans⟩ := Run.eq_of_trace_eq_append_cons step htr
    refine ⟨ks₁, htr₁, hans, ?_⟩
    have hmap : (ks₁ ++ y.1 :: ks₂).map (·.1) = (ks₁ ++ [y.1]).map (·.1) ++ ks₂.map (·.1) := by
      simp
    rw [Clock.now_of_inRange hin]
    rw [hmap] at hfwd
    exact hfwd.of_append
  refine ⟨?_, ?_⟩
  · intro pre y rest htr hy hpre
    obtain ⟨ks₁, htr₁, hans, hfwd₁⟩ := split pre y rest htr
    obtain ⟨t', ht', hin', hk⟩ := keeps_run hkeeps ks₁ (htr₁ ▸ hpre) y.1 hfwd₁
    obtain ⟨hlive, hdead⟩ := redeem_of_keeps hk ht' hin'
    have hy2 : y.2 = .redeemed ((Run.final step (cache.perform clk call).state ks₁).redeem
        y.1.1 e.key).answer := by
      rw [← hans]
      simp only [step, hy, perform, Outcome.answer_mapAnswer]
    rw [hy2, hexp] at *
    exact ⟨fun hlt => by rw [hlive hlt], fun hge => by
      obtain ⟨msg, hmsg⟩ := hdead hge
      exact ⟨msg, by rw [hmsg]⟩⟩
  · intro pre y rest htr hpre hiss
    obtain ⟨ks₁, htr₁, hans, hfwd₁⟩ := split pre y rest htr
    have hredeem : ∀ x ∈ ks₁, x.2 ≠ .redeem e.key := by
      intro x hx
      rw [← Run.map_fst_trace step (cache.perform clk call).state ks₁, htr₁] at hx
      obtain ⟨w, hw, rfl⟩ := List.mem_map.1 hx
      exact hpre w hw
    have hle := expiry_le_of_issuedAs hkeeps ks₁ hredeem y.1 hfwd₁ (by rw [hans]; exact hiss)
    omega

private def abcOnce : CodeCache Unit :=
  { store := { name := name, gate := ⟨30000, 0, by decide⟩ },
    generator := .scripted [.code "abc"], ttl := 30000 }

private def appGrant : Grant Unit := ⟨none, "app", ()⟩

theorem code_redeem_at_ttl_boundary :
    ((abcOnce.perform ⟨0⟩ (.issue appGrant)).state.perform ⟨29999⟩ (.redeem "abc")).answer =
        .redeemed (.ok appGrant) ∧
      ∃ msg, ((abcOnce.perform ⟨0⟩ (.issue appGrant)).state.perform ⟨30000⟩ (.redeem "abc")).answer =
        .redeemed (.error (.invalidGrant msg)) := by
  have hissued : (abcOnce.perform ⟨0⟩ (.issue appGrant)).answer = .issued (.ok "abc") := by rfl
  have hbefore := (issued_code_honours_ttl (Or.inr ⟨rfl, rfl⟩) hissued (by decide)
    [(⟨29999⟩, .redeem "abc")] (by decide)).1 [] _ [] rfl rfl (by simp)
  have hat := (issued_code_honours_ttl (Or.inr ⟨rfl, rfl⟩) hissued (by decide)
    [(⟨30000⟩, .redeem "abc")] (by decide)).1 [] _ [] rfl rfl (by simp)
  exact ⟨hbefore.1 (by decide), hat.2 (by decide)⟩

end CodeCache

end CredentialCache
