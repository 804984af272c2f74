import CredentialCache.Store.Basic
/-!
# Runs of calls

A cache answers one call at a time: from its state and a call it computes an `Outcome`, the
answer and the next state. A run feeds it a list of calls. Its trace pairs each call with the
answer that call got, and its final state is what the last call left. Every prefix of a list of
calls is itself a run, so a fact about all runs holds after every step of one.
-/

namespace CredentialCache

namespace Run

variable {σ κ β : Type} (step : σ → κ → Outcome σ β)

def trace : σ → List κ → List (κ × β)
  | _, [] => []
  | s, k :: ks => (k, (step s k).answer) :: trace (step s k).state ks

def final : σ → List κ → σ
  | s, [] => s
  | s, k :: ks => final (step s k).state ks

@[simp] theorem trace_nil (s : σ) : trace step s [] = [] := rfl

@[simp] theorem trace_cons (s : σ) (k : κ) (ks : List κ) :
    trace step s (k :: ks) = (k, (step s k).answer) :: trace step (step s k).state ks := rfl

@[simp] theorem final_nil (s : σ) : final step s [] = s := rfl

@[simp] theorem final_cons (s : σ) (k : κ) (ks : List κ) :
    final step s (k :: ks) = final step (step s k).state ks := rfl

@[simp] theorem length_trace (s : σ) (ks : List κ) : (trace step s ks).length = ks.length := by
  induction ks generalizing s with
  | nil => rfl
  | cons k ks ih => simp [ih]

theorem final_append (s : σ) (ks₁ ks₂ : List κ) :
    final step s (ks₁ ++ ks₂) = final step (final step s ks₁) ks₂ := by
  induction ks₁ generalizing s with
  | nil => rfl
  | cons k ks ih => exact ih _

theorem map_fst_trace (s : σ) (ks : List κ) : (trace step s ks).map Prod.fst = ks := by
  induction ks generalizing s with
  | nil => rfl
  | cons k ks ih => simp [ih]

theorem eq_of_trace_eq_append_cons {s : σ} {ks : List κ} {pre post : List (κ × β)}
    {x : κ × β} (h : trace step s ks = pre ++ x :: post) :
    ∃ ks₁ ks₂, ks = ks₁ ++ x.1 :: ks₂ ∧ trace step s ks₁ = pre ∧
      (step (final step s ks₁) x.1).answer = x.2 := by
  induction ks generalizing s pre with
  | nil => cases pre <;> simp at h
  | cons k ks ih =>
    cases pre with
    | nil =>
      simp only [trace_cons, List.nil_append, List.cons.injEq] at h
      obtain ⟨rfl, -⟩ := h
      exact ⟨[], ks, rfl, rfl, rfl⟩
    | cons y pre =>
      simp only [trace_cons, List.cons_append, List.cons.injEq] at h
      obtain ⟨rfl, h⟩ := h
      obtain ⟨ks₁, ks₂, rfl, htr, hans⟩ := ih h
      exact ⟨k :: ks₁, ks₂, rfl, by simp [htr], hans⟩

/-- A property of the trace so far and the state, kept by every call, holds at the end of every
run that starts where it holds. -/
theorem trace_final_induction (P : List (κ × β) → σ → Prop) {s : σ} (h₀ : P [] s)
    (hstep : ∀ tr s k, P tr s → P (tr ++ [(k, (step s k).answer)]) (step s k).state)
    (ks : List κ) : P (trace step s ks) (final step s ks) := by
  -- The trace of the calls made before the current state is carried along.
  suffices h : ∀ tr s, P tr s → P (tr ++ trace step s ks) (final step s ks) by
    simpa using h [] s h₀
  induction ks with
  | nil => intro tr s h; simpa using h
  | cons k ks ih =>
    intro tr s h
    have h' := ih _ _ (hstep tr s k h)
    simpa using h'

end Run

/-- Raw readings that never go back from `t` and stay inside the calendar range. -/
def Clock.Forward : Int → List Clock → Prop
  | _, [] => True
  | t, c :: cs => Instant.InRange c.reading ∧ t ≤ c.reading ∧ Clock.Forward c.reading cs

instance Clock.decidableForward : (t : Int) → (cs : List Clock) → Decidable (Clock.Forward t cs)
  | _, [] => .isTrue trivial
  | t, c :: cs =>
    have := Clock.decidableForward c.reading cs
    inferInstanceAs (Decidable (Instant.InRange c.reading ∧ t ≤ c.reading ∧ Clock.Forward c.reading cs))

theorem Clock.Forward.le_of_mem {t : Int} {cs : List Clock} (h : Clock.Forward t cs) :
    ∀ c ∈ cs, t ≤ c.reading := by
  induction cs generalizing t with
  | nil => simp
  | cons c cs ih =>
    obtain ⟨-, ht, hcs⟩ := h
    intro c' hc'
    rcases List.mem_cons.1 hc' with rfl | hc'
    · exact ht
    · exact Int.le_trans ht (ih hcs c' hc')

theorem Clock.Forward.inRange_of_mem {t : Int} {cs : List Clock} (h : Clock.Forward t cs) :
    ∀ c ∈ cs, Instant.InRange c.reading := by
  induction cs generalizing t with
  | nil => simp
  | cons c cs ih =>
    obtain ⟨hin, -, hcs⟩ := h
    intro c' hc'
    rcases List.mem_cons.1 hc' with rfl | hc'
    · exact hin
    · exact ih hcs c' hc'

theorem Clock.Forward.of_append {t : Int} {cs₁ cs₂ : List Clock} (h : Clock.Forward t (cs₁ ++ cs₂)) :
    Clock.Forward t cs₁ := by
  induction cs₁ generalizing t with
  | nil => trivial
  | cons c cs ih =>
    obtain ⟨hin, ht, hcs⟩ := h
    exact ⟨hin, ht, ih hcs⟩

def Clock.lastNow : Instant → List Clock → Instant
  | t, [] => t
  | _, c :: cs => Clock.lastNow c.now cs

theorem Clock.Forward.lastNow_le {t : Instant} {cs : List Clock} {c : Clock}
    (h : Clock.Forward t.ms (cs ++ [c])) : (Clock.lastNow t cs).ms ≤ c.reading := by
  induction cs generalizing t with
  | nil => exact h.2.1
  | cons c₀ cs ih =>
    obtain ⟨hin, -, hrest⟩ := h
    apply ih
    rw [Clock.now_of_inRange hin]
    exact hrest

/-- A property of a state and the clock's instant so far, kept by every allowed call made at a
calendar reading no earlier than that instant, holds at the end of every allowed run whose clock
never goes back, at the instant of its last call. -/
theorem Run.final_forward {σ κ β : Type} (step : σ → Clock × κ → Outcome σ β)
    (P : Instant → σ → Prop) (Q : Clock × κ → Prop)
    (hstep : ∀ t s x, P t s → Q x → Instant.InRange x.1.reading → t.ms ≤ x.1.reading →
      P x.1.now (step s x).state)
    {t : Instant} {s : σ} (h : P t s) (calls : List (Clock × κ)) (hQ : ∀ x ∈ calls, Q x)
    (hfwd : Clock.Forward t.ms (calls.map (·.1))) :
    P (Clock.lastNow t (calls.map (·.1))) (Run.final step s calls) := by
  induction calls generalizing t s with
  | nil => exact h
  | cons x calls ih =>
    simp only [List.map_cons] at hfwd
    obtain ⟨hin, ht, hrest⟩ := hfwd
    refine ih (hstep t s x h (hQ x List.mem_cons_self) hin ht)
      (fun y hy => hQ y (List.mem_cons_of_mem _ hy)) ?_
    rw [Clock.now_of_inRange hin]
    exact hrest

theorem Run.split_forward {σ κ β : Type} {step : σ → Clock × κ → Outcome σ β} {s : σ}
    {ks : List (Clock × κ)} {pre rest : List ((Clock × κ) × β)} {y : (Clock × κ) × β} {t : Int}
    (htr : Run.trace step s ks = pre ++ y :: rest) (hfwd : Clock.Forward t (ks.map (·.1))) :
    ∃ ks₁, Run.trace step s ks₁ = pre ∧ (step (Run.final step s ks₁) y.1).answer = y.2 ∧
      Clock.Forward t ((ks₁ ++ [y.1]).map (·.1)) := by
  obtain ⟨ks₁, ks₂, rfl, htr₁, hans⟩ := Run.eq_of_trace_eq_append_cons step htr
  refine ⟨ks₁, htr₁, hans, ?_⟩
  have hmap : (ks₁ ++ y.1 :: ks₂).map (·.1) = (ks₁ ++ [y.1]).map (·.1) ++ ks₂.map (·.1) := by
    simp
  rw [hmap] at hfwd
  exact hfwd.of_append

end CredentialCache
