import CredentialCache.Telemetry.Counters
import CredentialCache.Proofs.Run
/-!
# Counting events

A counter series only grows, by a fixed weight per event: a sweep adds one to its cache's sweep
series and its removed count to its cache's removed-entries series, an issued or redeemed code
and a created token add one to their series, a refused redemption one to its reason's series, and
a deletion its count to its reason's series. So after any events a series holds its value before
plus the weights of the events, whatever order the series came into existence in. The events of
a run are those of its calls in order, and the counters of a run are read off them; what the
counters come to is then a measure of each call summed along the run.
-/

namespace CredentialCache

namespace Event

def weight (x : Series) : Event → Nat
  | .swept cache n => (if x = .sweeps cache then 1 else 0) + if x = .sweptEntries cache then n else 0
  | .codeIssued _ _ => if x = .codesIssued then 1 else 0
  | .codeCollided _ => 0
  | .codeRedeemed => if x = .codesRedeemed then 1 else 0
  | .codeRejected r => if x = .codesRejected r then 1 else 0
  | .tokenCreated _ _ _ => if x = .tokensCreated then 1 else 0
  | .tokensDeleted r n => if x = .tokensDeleted r then n else 0

def gain (x : Series) : List Event → Nat
  | [] => 0
  | e :: es => e.weight x + gain x es

@[simp] theorem gain_nil (x : Series) : gain x [] = 0 := rfl

@[simp] theorem gain_cons (x : Series) (e : Event) (es : List Event) :
    gain x (e :: es) = e.weight x + gain x es := rfl

@[simp] theorem gain_append (x : Series) (es₁ es₂ : List Event) :
    gain x (es₁ ++ es₂) = gain x es₁ + gain x es₂ := by
  induction es₁ with
  | nil => simp
  | cons e es ih => simp [ih, Nat.add_assoc]

end Event

namespace Counters

private theorem value_add (c : Counters) (s x : Series) (n : Nat) :
    (c.add s n).value x = c.value x + if x = s then n else 0 := by
  unfold add
  split
  · -- The series exists: its entries grow by `n` in place, and keys stay where they were.
    rename_i hany
    have hkeys : ((fun y => y.1 == x) ∘ fun (y : Series × Nat) =>
        if y.1 == s then (y.1, y.2 + n) else (y.1, y.2)) = fun y => y.1 == x := by
      funext y
      simp only [Function.comp]
      split <;> rfl
    simp only [value, get?, List.find?_map, hkeys]
    cases hf : c.values.find? (·.1 == x) with
    | none =>
      by_cases hx : x = s
      · subst hx
        obtain ⟨y, hy, hys⟩ := List.any_eq_true.1 hany
        exact absurd hys (List.find?_eq_none.1 hf y hy)
      · simp [hx]
    | some y =>
      have hyx : y.1 = x := by simpa using List.find?_some hf
      by_cases hx : x = s <;> simp [hyx, hx]
  · -- A new series starts at `n` at the end; the others are found where they were.
    rename_i hany
    simp only [value, get?, List.find?_append]
    by_cases hx : x = s
    · subst hx
      have hnone : c.values.find? (·.1 == x) = none := by
        rw [List.find?_eq_none]
        intro y hy hyx
        exact hany (List.any_eq_true.2 ⟨y, hy, hyx⟩)
      simp [hnone]
    · have hne : (s == x) = false := by simpa using Ne.symm hx
      simp [hne, hx]

private theorem value_record (c : Counters) (e : Event) (x : Series) :
    (c.record e).value x = c.value x + e.weight x := by
  cases e with
  | swept cache n => simp only [record, value_add, Event.weight, Nat.add_assoc]
  | codeCollided attempt => rfl
  | tokensDeleted r n =>
    simp only [record, Event.weight]
    split
    · rename_i hn
      simp [hn]
    · exact value_add c _ x n
  | _ => exact value_add c _ x _

private theorem value_recordAll (c : Counters) (es : List Event) (x : Series) :
    (c.recordAll es).value x = c.value x + Event.gain x es := by
  induction es generalizing c with
  | nil => rfl
  | cons e es ih =>
    change (es.foldl record (c.record e)).value x = _
    rw [← recordAll, ih, value_record, Event.gain_cons, Nat.add_assoc]

@[simp] theorem value_empty (x : Series) : empty.value x = 0 := rfl

end Counters

namespace Run

variable {σ κ β : Type} (step : σ → κ → Outcome σ β)

def events : σ → List κ → List Event
  | _, [] => []
  | s, k :: ks => (step s k).events ++ events (step s k).state ks

def metrics (s : σ) (ks : List κ) : Counters := Counters.empty.recordAll (events step s ks)

/-- A measure of each call of a run, taken at the state the call met, summed over the run. -/
def total (f : σ → κ → Nat) : σ → List κ → Nat
  | _, [] => 0
  | s, k :: ks => f s k + total f (step s k).state ks

def tally (f : κ × β → Nat) : List (κ × β) → Nat
  | [] => 0
  | x :: xs => f x + tally f xs

theorem metrics_value (s : σ) (ks : List κ) (x : Series) :
    (metrics step s ks).value x = total step (fun s k => Event.gain x (step s k).events) s ks := by
  rw [metrics, Counters.value_recordAll, Counters.value_empty, Nat.zero_add]
  induction ks generalizing s with
  | nil => rfl
  | cons k ks ih => simp only [events, total, Event.gain_append, ih]

@[simp] theorem total_zero (s : σ) (ks : List κ) : total step (fun _ _ => 0) s ks = 0 := by
  induction ks generalizing s with
  | nil => rfl
  | cons k ks ih => simp only [total, ih]

section Invariant

variable (P : σ → Prop) (hP : ∀ s k, P s → P (step s k).state)
include hP

private theorem total_congr {f g : σ → κ → Nat} (h : ∀ s k, P s → f s k = g s k) {s : σ} (hs : P s)
    (ks : List κ) : total step f s ks = total step g s ks := by
  induction ks generalizing s with
  | nil => rfl
  | cons k ks ih => simp only [total, h s k hs, ih (hP s k hs)]

/-- A series that each call from a state of an invariant raises by a measure holds, in the counters
of a run from it, that measure summed over the run. -/
theorem metrics_value_eq_total {x : Series} {f : σ → κ → Nat}
    (h : ∀ s k, P s → Event.gain x (step s k).events = f s k) {s : σ} (hs : P s) (ks : List κ) :
    (metrics step s ks).value x = total step f s ks := by
  rw [metrics_value]
  exact total_congr step P hP h hs ks

/-- A measure that each call adds to a quantity of the state sums, over a run, to what the run
adds to it. -/
theorem total_add_eq (f : σ → κ → Nat) (q : σ → Nat) (h : ∀ s k, P s → f s k + q s = q (step s k).state)
    {s : σ} (hs : P s) (ks : List κ) : total step f s ks + q s = q (final step s ks) := by
  induction ks generalizing s with
  | nil => simp [total]
  | cons k ks ih =>
    rw [total, final_cons, ← ih (hP s k hs), ← h s k hs]
    omega

end Invariant

theorem total_answer (f : κ × β → Nat) (s : σ) (ks : List κ) :
    total step (fun s k => f (k, (step s k).answer)) s ks = tally f (trace step s ks) := by
  induction ks generalizing s with
  | nil => rfl
  | cons k ks ih => simp only [total, trace_cons, tally, ih]

theorem total_answer_count (p : κ × β → Bool) (s : σ) (ks : List κ) :
    total step (fun s k => if p (k, (step s k).answer) then 1 else 0) s ks =
      (trace step s ks).countP p := by
  induction ks generalizing s with
  | nil => rfl
  | cons k ks ih =>
    simp only [total, trace_cons, List.countP_cons, ih]
    omega

end Run

end CredentialCache
