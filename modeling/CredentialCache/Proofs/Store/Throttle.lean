import CredentialCache.Proofs.Gate
import CredentialCache.Proofs.Store.Calls
/-!
# Throttled sweeps of a store

Along any run of a store, its gate sees exactly the readings of the calls that consult it, and
the sweep count grows by one for each explicit sweep and one for each reading the gate admits.
With the gate's own laws this bounds the sweeps that writes and reads trigger over any window
of raw readings, however the clock moved.
-/

namespace CredentialCache

theorem StoreCall.isSweep_eq_false {α : Type} {call : StoreCall α} (h : call.consultsGate = true) :
    call.isSweep = false := by
  cases call <;> simp_all [consultsGate, isSweep]

namespace Store

variable {α : Type}

def gateReadings (calls : List (Clock × StoreCall α)) : List Int :=
  (calls.filter (·.2.consultsGate)).map (·.1.reading)

private theorem gateReadings_cons (c : Clock) (call : StoreCall α) (calls : List (Clock × StoreCall α)) :
    gateReadings ((c, call) :: calls) =
      if call.consultsGate then c.reading :: gateReadings calls else gateReadings calls := by
  unfold gateReadings
  cases h : call.consultsGate <;> simp [h]

/-- A run moves the gate through the readings its calls consult it at, and counts one sweep per
explicit sweep and one per reading the gate admits. -/
theorem final_gate_sweeps (s : Store α) (calls : List (Clock × StoreCall α)) :
    (Run.final step s calls).gate = s.gate.afterAll (gateReadings calls) ∧
      (Run.final step s calls).sweeps =
        s.sweeps + (calls.filter (·.2.isSweep)).length + (s.gate.admitted (gateReadings calls)).length := by
  induction calls generalizing s with
  | nil => exact ⟨rfl, rfl⟩
  | cons x calls ih =>
    obtain ⟨c, call⟩ := x
    obtain ⟨hgate, hsweeps⟩ := perform_gate_sweeps s c call
    obtain ⟨ihg, ihs⟩ := ih (s.perform c call).state
    simp only [Run.final_cons, step] at ihg ihs ⊢
    rw [gateReadings_cons, ihg, ihs, hgate, hsweeps, List.filter_cons]
    cases hc : call.consultsGate
    · -- The gate is not consulted: only an explicit sweep counts.
      cases call.isSweep <;> simp
      omega
    · have hns := StoreCall.isSweep_eq_false hc
      cases ht : s.gate.tryAcquire c.reading with
      | none => simp [hns, SweepGate.afterAll, SweepGate.admitted_cons, ht]
      | some g =>
        simp [hns, SweepGate.afterAll, SweepGate.admitted_cons, ht]
        omega

/-- Sweep throttling. A fresh gate of interval `I`, tried at readings whose differences with its
last admitted reading never wrap, admits a reading exactly when it is `I` past the latest reading
admitted before it (zero before the first), and keeps nothing else; the admitted readings climb
from zero by at least `I` at a time, so any window `[lo, hi]` holds at most `(hi - lo) / I + 1`
of them. Along any run of a store, the sweep count grows by the explicit sweeps and the readings
the gate admits, and the gate sees exactly the readings its writes, reads and throttled sweeps
consult it at; for a new store of interval `I` the throttled sweeps obey the same window bound. -/
theorem sweep_gate_throttles :
    (∀ (I : Int) (g : SweepGate) (ns : List Int), SweepGate.create I = .ok g → g.NoWrap ns →
      (∀ pre n post, ns = pre ++ n :: post →
        (((g.afterAll pre).tryAcquire n).isSome ↔ I ≤ n - g.latest pre) ∧
          g.afterAll pre = { g with last := g.latest pre }) ∧
      (0 :: g.admitted ns).IsChain (fun a b => a + I ≤ b) ∧
      ∀ lo hi, (g.admitted ns).countP (fun n => lo ≤ n ∧ n ≤ hi) ≤ ((hi - lo) / I + 1).toNat) ∧
    (∀ (s : Store α) (calls : List (Clock × StoreCall α)),
      (Run.final step s calls).sweeps =
          s.sweeps + (calls.filter (·.2.isSweep)).length +
            (s.gate.admitted (gateReadings calls)).length ∧
        (Run.final step s calls).gate = s.gate.afterAll (gateReadings calls)) ∧
    ∀ (name : String) (I : Int) (s : Store α) (calls : List (Clock × StoreCall α)),
      Store.empty name I = .ok s → s.gate.NoWrap (gateReadings calls) →
      ∀ lo hi, (s.gate.admitted (gateReadings calls)).countP (fun n => lo ≤ n ∧ n ≤ hi) ≤
        ((hi - lo) / I + 1).toNat := by
  -- The window bound for a fresh gate, shared by the gate's own runs and the store's.
  have window : ∀ (I : Int) (g : SweepGate) (ns : List Int), SweepGate.create I = .ok g →
      g.NoWrap ns → ∀ lo hi,
        (g.admitted ns).countP (fun n => lo ≤ n ∧ n ≤ hi) ≤ ((hi - lo) / I + 1).toNat := by
    intro I g ns hg hns lo hi
    obtain ⟨hI, -⟩ := SweepGate.create_eq_ok hg
    subst hI
    exact SweepGate.countP_window_le_of_pairwise g.interval_pos (SweepGate.pairwise_admitted hns) lo hi
  refine ⟨fun I g ns hg hns => ⟨?_, ?_, window I g ns hg hns⟩, fun s calls => ?_, ?_⟩
  · intro pre n post hsplit
    obtain ⟨hI, -⟩ := SweepGate.create_eq_ok hg
    subst hsplit
    exact ⟨hI ▸ SweepGate.tryAcquire_afterAll_isSome_iff hns, SweepGate.afterAll_eq g pre⟩
  · obtain ⟨hI, hlast⟩ := SweepGate.create_eq_ok hg
    rw [← hI, ← hlast]
    exact SweepGate.isChain_admitted hns
  · obtain ⟨hgate, hsweeps⟩ := final_gate_sweeps s calls
    exact ⟨hsweeps, hgate⟩
  · intro name I s calls hs hns
    exact window I s.gate _ (empty_eq_ok hs).1 hns

theorem sweep_gate_throttles_at_one_second :
    SweepGate.create 1000 = .ok ⟨1000, 0, by decide⟩ ∧
      (SweepGate.mk 1000 0 (by decide)).NoWrap [1000, 500, 2500, 3000] ∧
      (SweepGate.mk 1000 0 (by decide)).admitted [1000, 500, 2500, 3000] = [1000, 2500] ∧
      ((SweepGate.mk 1000 0 (by decide)).admitted [1000, 500, 2500, 3000]).countP
        (fun n => 0 ≤ n ∧ n ≤ 2000) ≤ ((2000 - 0 : Int) / 1000 + 1).toNat := by
  have hg : SweepGate.create 1000 = .ok ⟨1000, 0, by decide⟩ := rfl
  have hns : (SweepGate.mk 1000 0 (by decide)).NoWrap [1000, 500, 2500, 3000] :=
    SweepGate.noWrap_of_inRange (by decide) (by decide)
  exact ⟨hg, hns, by decide,
    ((@sweep_gate_throttles Nat).1 1000 _ [1000, 500, 2500, 3000] hg hns).2.2 0 2000⟩

end Store

end CredentialCache
