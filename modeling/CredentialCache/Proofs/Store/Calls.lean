import CredentialCache.Proofs.Run
import CredentialCache.Proofs.Store.Step
/-!
# Calls to a store

Every public operation of a store, as a call made at a clock. A call answers in its own shape;
the writes and the keyed reads run the throttled sweep first, an explicit sweep runs it
unthrottled, and the other calls leave the gate and the sweep count alone.
-/

namespace CredentialCache

inductive StoreCall (α : Type)
  | put (key : String) (value : α) (ttl : Int)
  | putUntil (key : String) (value : α) (expires : Instant)
  | putIfAbsent (key : String) (value : α) (ttl : Int)
  | take (key : String)
  | lookup (key : String) (consume : Bool)
  | get (key : String)
  | remove (key : String)
  | removeWhere (p : Entry α → Bool)
  | removeLiveWhere (p : α → Bool)
  | sweep
  | maybeSweep
  | liveEntries (p : Entry α → Bool)
  | collectLive (p : α → Bool)
  | size

inductive StoreReply (α : Type)
  | stored (r : Except InsertError Unit)
  | offered (r : Except InsertError (Option α))
  | lookedUp (l : Lookup α)
  | entry (e : Option (Entry α))
  | removed (v : Option α)
  | count (n : Nat)
  | swept (n : Nat)
  | maybeSwept (n : Option Nat)
  | entries (es : List (Entry α))
  | values (vs : List α)
  | size (n : Nat)

namespace StoreCall

variable {α : Type}

/-- Whether a call runs the throttled sweep first: the writes, the keyed reads and the throttled
sweep itself. -/
def consultsGate : StoreCall α → Bool
  | .put .. | .putUntil .. | .putIfAbsent .. | .take _ | .lookup .. | .maybeSweep => true
  | _ => false

def isSweep : StoreCall α → Bool
  | .sweep => true
  | _ => false

end StoreCall

def Outcome.mapAnswer {σ β γ : Type} (f : β → γ) (r : Outcome σ β) : Outcome σ γ :=
  { answer := f r.answer, state := r.state, events := r.events }

@[simp] theorem Outcome.answer_mapAnswer {σ β γ : Type} (f : β → γ) (r : Outcome σ β) :
    (r.mapAnswer f).answer = f r.answer := rfl

@[simp] theorem Outcome.state_mapAnswer {σ β γ : Type} (f : β → γ) (r : Outcome σ β) :
    (r.mapAnswer f).state = r.state := rfl

namespace Store

variable {α : Type}

def perform (s : Store α) (c : Clock) : StoreCall α → Outcome (Store α) (StoreReply α)
  | .put k v ttl => (s.put c k v ttl).mapAnswer .stored
  | .putUntil k v e => (s.putUntil c k v e).mapAnswer .stored
  | .putIfAbsent k v ttl => (s.putIfAbsent c k v ttl).mapAnswer .offered
  | .take k => (s.take c k).mapAnswer .lookedUp
  | .lookup k consume => (s.lookup c k consume).mapAnswer .lookedUp
  | .get k => { answer := .entry (s.find? k), state := s }
  | .remove k => { answer := .removed (s.remove k).1, state := (s.remove k).2 }
  | .removeWhere p => { answer := .count (s.removeWhere p).1, state := (s.removeWhere p).2 }
  | .removeLiveWhere p =>
    { answer := .count (s.removeLiveWhere c.now p).1, state := (s.removeLiveWhere c.now p).2 }
  | .sweep => (s.sweep c).mapAnswer .swept
  | .maybeSweep => (s.maybeSweep c).mapAnswer .maybeSwept
  | .liveEntries p => { answer := .entries (s.liveEntries c.now p), state := s }
  | .collectLive p => { answer := .values (s.collectLive c.now p), state := s }
  | .size => { answer := .size s.size, state := s }

def step (s : Store α) (call : Clock × StoreCall α) : Outcome (Store α) (StoreReply α) :=
  s.perform call.1 call.2

/-- A call moves the gate only if it consults it, and counts a sweep when it is an explicit one
or when the gate lets its throttled sweep through. -/
theorem perform_gate_sweeps (s : Store α) (c : Clock) (call : StoreCall α) :
    (s.perform c call).state.gate =
        (if call.consultsGate then (s.gate.tryAcquire c.reading).getD s.gate else s.gate) ∧
      (s.perform c call).state.sweeps = s.sweeps + (if call.isSweep then 1 else 0) +
        (if call.consultsGate && (s.gate.tryAcquire c.reading).isSome then 1 else 0) := by
  -- Past the throttled sweep, a write or a keyed read only inserts or erases an entry.
  cases call with
  | put k v ttl =>
    simp only [perform, Outcome.mapAnswer, put_state]
    cases expiryAfter k c.now ttl <;>
      simp [gate_maybeSweep, sweeps_maybeSweep, StoreCall.consultsGate, StoreCall.isSweep]
  | putUntil k v e =>
    simp only [perform, Outcome.mapAnswer, putUntil_state]
    by_cases h : e ≤ c.now <;>
      simp [h, gate_maybeSweep, sweeps_maybeSweep, StoreCall.consultsGate, StoreCall.isSweep]
  | putIfAbsent k v ttl =>
    simp only [perform, Outcome.mapAnswer, putIfAbsent_state]
    cases expiryAfter k c.now ttl with
    | error => simp [gate_maybeSweep, sweeps_maybeSweep, StoreCall.consultsGate, StoreCall.isSweep]
    | ok exp =>
      by_cases h : ((s.maybeSweep c).state.find? k).any (·.isLiveAt c.now) <;>
        simp [h, gate_maybeSweep, sweeps_maybeSweep, StoreCall.consultsGate, StoreCall.isSweep]
  | take k =>
    simp only [perform, Outcome.mapAnswer, take_state]
    cases (s.maybeSweep c).state.find? k <;>
      simp [gate_maybeSweep, sweeps_maybeSweep, StoreCall.consultsGate, StoreCall.isSweep]
  | lookup k consume =>
    cases consume
    · simp only [perform, Outcome.mapAnswer, lookup, Bool.false_eq_true, if_false, read_state]
      cases (s.maybeSweep c).state.find? k with
      | none => simp [gate_maybeSweep, sweeps_maybeSweep, StoreCall.consultsGate, StoreCall.isSweep]
      | some e =>
        by_cases he : e.isExpiredAt c.now <;>
          simp [he, gate_maybeSweep, sweeps_maybeSweep, StoreCall.consultsGate, StoreCall.isSweep]
    · simp only [perform, Outcome.mapAnswer, lookup, if_true, take_state]
      cases (s.maybeSweep c).state.find? k <;>
        simp [gate_maybeSweep, sweeps_maybeSweep, StoreCall.consultsGate, StoreCall.isSweep]
  | maybeSweep =>
    simp only [perform, Outcome.mapAnswer, StoreCall.consultsGate, StoreCall.isSweep]
    simp [gate_maybeSweep, sweeps_maybeSweep]
  | sweep => simp [perform, Outcome.mapAnswer, StoreCall.consultsGate, StoreCall.isSweep, sweep,
      sweepAt_state]
  | get k => simp [perform, StoreCall.consultsGate, StoreCall.isSweep]
  | remove k => simp [perform, remove, StoreCall.consultsGate, StoreCall.isSweep]
  | removeWhere p => simp [perform, removeWhere, StoreCall.consultsGate, StoreCall.isSweep]
  | removeLiveWhere p => simp [perform, removeLiveWhere, removeWhere, StoreCall.consultsGate,
      StoreCall.isSweep]
  | liveEntries p => simp [perform, StoreCall.consultsGate, StoreCall.isSweep]
  | collectLive p => simp [perform, StoreCall.consultsGate, StoreCall.isSweep]
  | size => simp [perform, StoreCall.consultsGate, StoreCall.isSweep]

end Store

end CredentialCache
