import Mathlib.Data.List.Induction
import CredentialCache.Proofs.Code.Calls
/-!
# Each issue of a code is redeemed at most once

Read a trace of a code cache one code at a time: an issue that answered the code makes its grant
outstanding, and a redeem of the code that handed out a grant clears it. Along every run from an
empty store, every redeem that hands out a grant hands out the one outstanding under its code,
because every stored code carries the grant outstanding under it: issuing stores a code only with
the grant it answers it for, and a redeem removes its code whatever it answers. The clock plays
no part, so this holds however the clock moves.

From the trace alone it follows that a code is redeemed no more often than it was issued, that
between two redeems of a code it was issued again, and that a redeem hands out the grant of the
latest issue of its code.
-/

namespace CredentialCache

namespace CodeCache

variable {α : Type}

abbrev TraceItem (α : Type) := (Clock × CodeCall α) × CodeReply α

section Ledger

variable (code : String)

def settle (o : Option (Grant α)) (x : TraceItem α) : Option (Grant α) :=
  match issuedAs code x with
  | some g => some g
  | none => if (redeemedAs code x).isSome then none else o

def outstanding (o : Option (Grant α)) (tr : List (TraceItem α)) : Option (Grant α) :=
  tr.foldl (settle code) o

/-- Every redeem of `code` in a trace that handed out a grant handed out the one outstanding just
before it, with `o` outstanding before the trace. -/
def RedeemsOutstanding : Option (Grant α) → List (TraceItem α) → Prop
  | _, [] => True
  | o, x :: xs => (∀ g, redeemedAs code x = some g → o = some g) ∧
      RedeemsOutstanding (settle code o x) xs

variable {code} {o : Option (Grant α)} {x : TraceItem α} {g : Grant α}

private theorem issuedAs_eq_none_of_redeemedAs {code' : String} (h : redeemedAs code x = some g) :
    issuedAs code' x = none := by
  obtain ⟨⟨clk, call⟩, reply⟩ := x
  cases call <;> cases reply <;> simp_all [issuedAs, redeemedAs]

private theorem settle_of_issuedAs (h : issuedAs code x = some g) : settle code o x = some g := by
  simp [settle, h]

private theorem settle_of_redeemedAs (h : redeemedAs code x = some g) : settle code o x = none := by
  simp [settle, h, issuedAs_eq_none_of_redeemedAs h]

private theorem settle_of_none (hi : issuedAs code x = none) (hr : redeemedAs code x = none) :
    settle code o x = o := by
  simp [settle, hi, hr]

@[simp] theorem outstanding_nil : outstanding code o [] = o := rfl

@[simp] theorem outstanding_cons (l : List (TraceItem α)) :
    outstanding code o (x :: l) = outstanding code (settle code o x) l := rfl

private theorem outstanding_append (l₁ l₂ : List (TraceItem α)) :
    outstanding code o (l₁ ++ l₂) = outstanding code (outstanding code o l₁) l₂ :=
  List.foldl_append

private theorem redeemsOutstanding_append (l₁ l₂ : List (TraceItem α)) :
    RedeemsOutstanding code o (l₁ ++ l₂) ↔
      RedeemsOutstanding code o l₁ ∧ RedeemsOutstanding code (outstanding code o l₁) l₂ := by
  induction l₁ generalizing o with
  | nil => simp [RedeemsOutstanding]
  | cons y l₁ ih => simp [RedeemsOutstanding, ih, and_assoc]

private theorem RedeemsOutstanding.eq_of_append_cons {pre post : List (TraceItem α)}
    (h : RedeemsOutstanding code o (pre ++ x :: post)) (hx : redeemedAs code x = some g) :
    outstanding code o pre = some g :=
  ((redeemsOutstanding_append pre _).1 h).2.1 g hx

private theorem exists_issue_of_outstanding {l : List (TraceItem α)} (h : outstanding code none l = some g) :
    ∃ l₁ z l₂, l = l₁ ++ z :: l₂ ∧ issuedAs code z = some g ∧
      ∀ w ∈ l₂, issuedAs code w = none ∧ redeemedAs code w = none := by
  -- From the end of the trace back: the latest call that issued or redeemed the code decides.
  induction l using List.reverseRecOn with
  | nil => simp at h
  | append_singleton l w ih =>
    rw [outstanding_append, outstanding_cons, outstanding_nil] at h
    cases hi : issuedAs code w with
    | some g' =>
      rw [settle_of_issuedAs hi] at h
      cases h
      exact ⟨l, w, [], rfl, hi, by simp⟩
    | none =>
      cases hr : redeemedAs code w with
      | some g' => rw [settle_of_redeemedAs hr] at h; cases h
      | none =>
        rw [settle_of_none hi hr] at h
        obtain ⟨l₁, z, l₂, rfl, hz, hl₂⟩ := ih h
        refine ⟨l₁, z, l₂ ++ [w], by simp, hz, fun w' hw' => ?_⟩
        rcases List.mem_append.1 hw' with hw' | hw'
        · exact hl₂ w' hw'
        · rw [List.mem_singleton.1 hw']
          exact ⟨hi, hr⟩

/-- Redeems that hand out the outstanding grant are no more than the issues, plus one for a
grant outstanding before the trace. -/
private theorem RedeemsOutstanding.countP_le {tr : List (TraceItem α)} (h : RedeemsOutstanding code o tr) :
    tr.countP (fun x => (redeemedAs code x).isSome) ≤
      tr.countP (fun x => (issuedAs code x).isSome) + if o.isSome then 1 else 0 := by
  induction tr generalizing o with
  | nil => simp
  | cons x tr ih =>
    obtain ⟨hx, htr⟩ := h
    have ih' := ih htr
    simp only [List.countP_cons]
    cases hi : issuedAs code x with
    | some g' =>
      -- An issue: the trace after it starts from an outstanding grant.
      have hr : redeemedAs code x = none := by
        cases hr : redeemedAs code x with
        | none => rfl
        | some g'' => simp [issuedAs_eq_none_of_redeemedAs hr] at hi
      rw [settle_of_issuedAs hi] at ih'
      simp [hr] at ih' ⊢
      omega
    | none =>
      cases hr : redeemedAs code x with
      | some g' =>
        -- A redeem: it used up the grant outstanding before it.
        rw [settle_of_redeemedAs hr] at ih'
        rw [hx g' hr]
        simp at ih' ⊢
        omega
      | none =>
        rw [settle_of_none hi hr] at ih'
        simpa [hr, hi] using ih'

private theorem RedeemsOutstanding.exists_issue_between {pre mid post : List (TraceItem α)}
    {y : TraceItem α} {g' : Grant α} (h : RedeemsOutstanding code o (pre ++ x :: (mid ++ y :: post)))
    (hx : redeemedAs code x = some g) (hy : redeemedAs code y = some g') :
    ∃ z ∈ mid, (issuedAs code z).isSome := by
  have hafter := ((redeemsOutstanding_append pre _).1 h).2.2
  rw [settle_of_redeemedAs hx] at hafter
  have hmid := RedeemsOutstanding.eq_of_append_cons hafter hy
  obtain ⟨l₁, z, l₂, rfl, hz, -⟩ := exists_issue_of_outstanding hmid
  exact ⟨z, by simp, by simp [hz]⟩

end Ledger

/-! ## Every stored code carries its outstanding grant -/

/-- What a trace and the cache after it keep: each redeem handed out the grant outstanding under
its code, and each stored code carries the grant outstanding under it. -/
structure Accounted (tr : List (TraceItem α)) (cache : CodeCache α) : Prop where
  redeems : ∀ code, RedeemsOutstanding code none tr
  entries : ∀ e ∈ cache.store.entries, outstanding e.key none tr = some e.value.grant

private theorem step_entries (cache : CodeCache α) (k : Clock × CodeCall α) :
    ∀ e ∈ (step cache k).state.store.entries,
      issuedAs e.key (k, (step cache k).answer) = some e.value.grant ∨
        (e ∈ cache.store.entries ∧ issuedAs e.key (k, (step cache k).answer) = none ∧
          redeemedAs e.key (k, (step cache k).answer) = none) := by
  obtain ⟨clk, call⟩ := k
  intro e he
  simp only [step] at he ⊢
  rcases perform_cases cache clk call with ⟨g, ttl, hg, hperf⟩ | ⟨c', rfl, hperf⟩ | ⟨rfl, hperf⟩
  · rw [hperf] at he ⊢
    simp only [Outcome.answer_mapAnswer, Outcome.state_mapAnswer] at he ⊢
    rcases issueWithTtl_cases cache clk g ttl with
      ⟨err, hans, htrim⟩ | ⟨c', s, exp, hans, htrim, -, -, -, hst⟩
    · right
      rw [hans]
      exact ⟨htrim.1 e he, by simp [issuedAs], by simp [redeemedAs]⟩
    · rw [hans]
      rw [hst, Store.entries_insert, List.mem_cons] at he
      rcases he with rfl | he
      · left
        show issuedAs c' ((clk, call), .issued (.ok c')) = some g
        simpa [issuedAs] using hg
      · -- An entry kept from before is under another code than the one issued.
        have ⟨hmem, hkey⟩ : e ∈ s.entries ∧ ¬e.key = c' := by simpa using he
        have hkey' : c' ≠ e.key := fun h => hkey h.symm
        right
        exact ⟨htrim.1 e hmem, by simp [issuedAs, hkey'], by simp [redeemedAs]⟩
  · rw [hperf] at he ⊢
    simp only [Outcome.answer_mapAnswer, Outcome.state_mapAnswer] at he ⊢
    rw [redeem_entries, List.mem_filter] at he
    obtain ⟨he, hkey⟩ := he
    have hkey' : c' ≠ e.key := fun h => by simp [h] at hkey
    right
    refine ⟨Store.mem_of_mem_maybeSweep he, by simp [issuedAs], ?_⟩
    cases (cache.redeem clk c').answer <;> simp [redeemedAs, hkey']
  · rw [hperf] at he ⊢
    simp only [Outcome.answer_mapAnswer, Outcome.state_mapAnswer] at he ⊢
    exact .inr ⟨(sweep_trimmed cache clk).1 e he, by simp [issuedAs], by simp [redeemedAs]⟩

private theorem step_redeemedAs {cache : CodeCache α} {k : Clock × CodeCall α} {code : String}
    {g : Grant α} (h : redeemedAs code (k, (step cache k).answer) = some g) :
    ∃ e ∈ cache.store.entries, e.key = code ∧ e.value.grant = g := by
  obtain ⟨clk, call⟩ := k
  cases call with
  | redeem c' =>
    simp only [step, perform, Outcome.answer_mapAnswer] at h
    cases hans : (cache.redeem clk c').answer with
    | error err => simp [hans, redeemedAs] at h
    | ok g' =>
      rw [hans] at h
      simp only [redeemedAs, Option.ite_none_right_eq_some, Option.some.injEq] at h
      obtain ⟨rfl, rfl⟩ := h
      obtain ⟨e, he, hkey, -, hgrant⟩ := redeem_eq_ok hans
      exact ⟨e, he, hkey, hgrant⟩
  | issue g' => simp [redeemedAs] at h
  | issueWithTtl g' ttl => simp [redeemedAs] at h
  | sweep => simp [redeemedAs] at h

theorem Accounted.step {tr : List (TraceItem α)} {cache : CodeCache α} (h : Accounted tr cache)
    (k : Clock × CodeCall α) :
    Accounted (tr ++ [(k, (step cache k).answer)]) (step cache k).state := by
  constructor
  · intro code
    refine (redeemsOutstanding_append tr _).2 ⟨h.redeems code, fun g hg => ?_, trivial⟩
    obtain ⟨e, he, rfl, rfl⟩ := step_redeemedAs hg
    exact h.entries e he
  · intro e he
    rw [outstanding_append, outstanding_cons, outstanding_nil]
    rcases step_entries cache k e he with hi | ⟨hold, hi, hr⟩
    · exact settle_of_issuedAs hi
    · rw [settle_of_none hi hr]
      exact h.entries e hold

private theorem accounted_run {cache : CodeCache α} (hempty : cache.store.entries = [])
    (calls : List (Clock × CodeCall α)) :
    Accounted (Run.trace step cache calls) (Run.final step cache calls) := by
  apply Run.trace_final_induction step Accounted
  · exact ⟨fun _ => trivial, by simp [hempty]⟩
  · intro tr s k h
    exact h.step k

/-- Single use of authorization codes. Along every run of a code cache from an empty store,
whatever the calls and however the clock moves, a code is redeemed for a grant no more often than
an issue answered it; between two such redeems of a code an issue answered it again; and each
such redeem hands out the grant of the latest issue that answered its code, with no redeem of the
code in between. -/
theorem redeemed_at_most_once_per_issue {cache : CodeCache α} (hempty : cache.store.entries = [])
    (calls : List (Clock × CodeCall α)) (code : String) :
    (Run.trace step cache calls).countP (fun x => (redeemedAs code x).isSome) ≤
        (Run.trace step cache calls).countP (fun x => (issuedAs code x).isSome) ∧
      (∀ pre x mid y post, Run.trace step cache calls = pre ++ x :: (mid ++ y :: post) →
        (redeemedAs code x).isSome → (redeemedAs code y).isSome →
          ∃ z ∈ mid, (issuedAs code z).isSome) ∧
      ∀ pre x post g, Run.trace step cache calls = pre ++ x :: post → redeemedAs code x = some g →
        ∃ pre₁ z mid, pre = pre₁ ++ z :: mid ∧ issuedAs code z = some g ∧
          ∀ w ∈ mid, issuedAs code w = none ∧ redeemedAs code w = none := by
  have hro := (accounted_run hempty calls).redeems code
  refine ⟨by simpa using hro.countP_le, ?_, ?_⟩
  · intro pre x mid y post htr hx hy
    obtain ⟨g, hg⟩ := Option.isSome_iff_exists.1 hx
    obtain ⟨g', hg'⟩ := Option.isSome_iff_exists.1 hy
    rw [htr] at hro
    exact hro.exists_issue_between hg hg'
  · intro pre x post g htr hx
    rw [htr] at hro
    exact exists_issue_of_outstanding (hro.eq_of_append_cons hx)

private def abcTwice : CodeCache Unit :=
  { store := { name := name, gate := ⟨60000, 0, by decide⟩ },
    generator := .scripted [.code "abc", .code "abc"], ttl := 60000 }

private def abcCalls : List (Clock × CodeCall Unit) :=
  [(⟨0⟩, .issue ⟨none, "app", ()⟩), (⟨10⟩, .redeem "abc"), (⟨20⟩, .redeem "abc"),
    (⟨5⟩, .issue ⟨some "ann", "app", ()⟩), (⟨7⟩, .redeem "abc"), (⟨8⟩, .redeem "abc")]

theorem redeemed_once_over_reissued_code :
    abcTwice.store.entries = [] ∧
      ((Run.trace step abcTwice abcCalls).countP (fun x => (redeemedAs "abc" x).isSome) ≤
          (Run.trace step abcTwice abcCalls).countP (fun x => (issuedAs "abc" x).isSome) ∧
        (∀ pre x mid y post, Run.trace step abcTwice abcCalls = pre ++ x :: (mid ++ y :: post) →
          (redeemedAs "abc" x).isSome → (redeemedAs "abc" y).isSome →
            ∃ z ∈ mid, (issuedAs "abc" z).isSome) ∧
        ∀ pre x post g, Run.trace step abcTwice abcCalls = pre ++ x :: post →
          redeemedAs "abc" x = some g →
            ∃ pre₁ z mid, pre = pre₁ ++ z :: mid ∧ issuedAs "abc" z = some g ∧
              ∀ w ∈ mid, issuedAs "abc" w = none ∧ redeemedAs "abc" w = none) :=
  ⟨rfl, redeemed_at_most_once_per_issue rfl abcCalls "abc"⟩

end CodeCache

end CredentialCache
