import CredentialCache.Error
import CredentialCache.Time.Clock
/-!
# Sweep gates

A sweep gate lets a sweep through at most once per interval of raw clock readings. It remembers
the reading of the last sweep it let through (zero at first), and admits a reading that is at
least one interval after it; a refused reading leaves the gate as it was. Readings are signed
64-bit words and so is their difference: it wraps, so that a reading far below the last may
count as far after it. Short of wrapping, an earlier reading than the last is refused.
-/

namespace CredentialCache

/-- A sweep gate: a positive interval and the reading of the last admitted sweep. -/
structure SweepGate where
  interval : Int
  /-- The reading at the last admitted sweep, or zero before the first. -/
  last : Int := 0
  interval_pos : 0 < interval
deriving DecidableEq, Repr

namespace SweepGate

def create (interval : Int) : Except AppError SweepGate :=
  if h : 0 < interval then .ok { interval, interval_pos := h }
  else .error (.invalidArgument s!"Sweep interval must be positive, got {interval}ms")

/-- Whether the gate admits a sweep at this reading: the wrapped difference from the last
admitted reading is at least the interval. -/
def admits (g : SweepGate) (reading : Int) : Bool := decide (g.interval ≤ Clock.wrapWord (reading - g.last))

def tryAcquire (g : SweepGate) (reading : Int) : Option SweepGate :=
  if g.admits reading then some { g with last := reading } else none

theorem tryAcquire_eq_some_iff {g g' : SweepGate} {reading : Int} :
    g.tryAcquire reading = some g' ↔
      g.interval ≤ Clock.wrapWord (reading - g.last) ∧ g' = { g with last := reading } := by
  unfold tryAcquire admits
  by_cases h : g.interval ≤ Clock.wrapWord (reading - g.last) <;> simp [h, eq_comm]

theorem tryAcquire_eq_none_iff {g : SweepGate} {reading : Int} :
    g.tryAcquire reading = none ↔ Clock.wrapWord (reading - g.last) < g.interval := by
  unfold tryAcquire admits
  by_cases h : g.interval ≤ Clock.wrapWord (reading - g.last)
  · simp only [h, decide_true, if_true, reduceCtorEq, false_iff, Int.not_lt]
  · simp only [h, decide_false, Bool.false_eq_true, if_false, true_iff]
    omega

end SweepGate

end CredentialCache
