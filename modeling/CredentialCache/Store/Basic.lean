import CredentialCache.Store.Gate
import CredentialCache.Store.Entry
import CredentialCache.Time.Clock
import CredentialCache.Event
/-!
# Expiring stores

A store keeps at most one entry per key, each with an expiry instant. Expired entries are not
removed one by one: a *sweep* drops every entry expired at the clock's instant. Writes and reads
first run the sweep if the store's gate admits the clock's raw reading, so sweeps happen at most
once per interval. Reads treat an expired entry as gone whether or not a sweep has dropped it.

Every operation returns an `Outcome`: its answer, the store after it and the events it reported
(here only sweeps).
-/

namespace CredentialCache

inductive InsertError
  | expiresImmediately (key : String) (ttlMs : Int)
  | outOfRange (key : String) (ttlMs : Int)
deriving DecidableEq, Repr

/-- The illegal-state error an insertion failure is reported as. The out-of-range text gives the
ttl in whole seconds, truncated toward zero. -/
def InsertError.toAppError : InsertError → AppError
  | .expiresImmediately key ttl => .illegalState s!"Entry '{key}' would expire immediately (ttl {ttl}ms)"
  | .outOfRange key ttl =>
    let secs := ttl.tdiv 1000
    .illegalState s!"Entry '{key}' ttl {secs}s is out of range"

/-- A store of values that expire: a name, a sweep gate, the entries and a count of sweeps. -/
structure Store (α : Type) where
  name : String
  gate : SweepGate
  entries : List (Entry α) := []
  sweeps : Nat := 0

/-- What an operation gives back: its answer, the state after it, and its events, oldest first. -/
structure Outcome (σ β : Type) where
  answer : β
  state : σ
  events : List Event := []

namespace Store

variable {α β : Type}

def empty (name : String) (interval : Int) : Except AppError (Store α) :=
  (SweepGate.create interval).map fun g => { name, gate := g }

def find? (s : Store α) (key : String) : Option (Entry α) := s.entries.find? (·.key == key)

def erase (s : Store α) (key : String) : Store α :=
  { s with entries := s.entries.filter (·.key != key) }

def insert (s : Store α) (e : Entry α) : Store α :=
  { s with entries := e :: (s.erase e.key).entries }

def size (s : Store α) : Nat := s.entries.length

def isEmpty (s : Store α) : Bool := s.entries.isEmpty

/-- One visit of a removal pass: an entry that satisfies the test is dropped and the running count
of removals goes up by one; any other entry is kept, after those kept before it. -/
def retainVisit (p : Entry α → Bool) (acc : Nat × List (Entry α)) (e : Entry α) :
    Nat × List (Entry α) :=
  if p e then (acc.1 + 1, acc.2) else (acc.1, acc.2 ++ [e])

/-- Drop the entries that satisfy a test in one pass that counts each removal as it makes it; the
answer is the final count. -/
def removeWhere (s : Store α) (p : Entry α → Bool) : Nat × Store α :=
  let r := s.entries.foldl (retainVisit p) (0, [])
  (r.1, { s with entries := r.2 })

def removeLiveWhere (s : Store α) (now : Instant) (p : α → Bool) : Nat × Store α :=
  s.removeWhere fun e => e.isLiveAt now && p e.value

def sweepAt (s : Store α) (now : Instant) : Outcome (Store α) Nat :=
  let (removed, s') := s.removeWhere (·.isExpiredAt now)
  { answer := removed, state := { s' with sweeps := s.sweeps + 1 },
    events := [.swept s.name removed] }

def sweep (s : Store α) (c : Clock) : Outcome (Store α) Nat := s.sweepAt c.now

/-- Sweep if the gate admits the clock's reading; the answer is the sweep's count, if it ran. -/
def maybeSweep (s : Store α) (c : Clock) : Outcome (Store α) (Option Nat) :=
  match s.gate.tryAcquire c.reading with
  | none => { answer := none, state := s }
  | some g =>
    let r := ({ s with gate := g } : Store α).sweepAt c.now
    { answer := some r.answer, state := r.state, events := r.events }

def afterSweep (s : Store α) (c : Clock) (f : Store α → β × Store α) : Outcome (Store α) β :=
  let r := s.maybeSweep c
  let (b, s') := f r.state
  { answer := b, state := s', events := r.events }

/-- The expiry instant a ttl gives at `now`: the ttl must be positive and the sum in range. -/
def expiryAfter (key : String) (now : Instant) (ttl : Int) : Except InsertError Instant :=
  if ttl ≤ 0 then .error (.expiresImmediately key ttl)
  else match now.addMs? ttl with
    | some e => .ok e
    | none => .error (.outOfRange key ttl)

def put (s : Store α) (c : Clock) (key : String) (value : α) (ttl : Int) :
    Outcome (Store α) (Except InsertError Unit) :=
  s.afterSweep c fun s =>
    match expiryAfter key c.now ttl with
    | .error err => (.error err, s)
    | .ok exp => (.ok (), s.insert ⟨key, value, c.now, exp⟩)

def putUntil (s : Store α) (c : Clock) (key : String) (value : α) (expires : Instant) :
    Outcome (Store α) (Except InsertError Unit) :=
  s.afterSweep c fun s =>
    if expires ≤ c.now then (.error (.expiresImmediately key (expires.ms - c.now.ms)), s)
    else (.ok (), s.insert ⟨key, value, c.now, expires⟩)

/-- Store a value for a ttl unless a live entry holds its key. The answer is `none` when it was
stored, or the very value handed in when a live entry kept the key. -/
def putIfAbsent (s : Store α) (c : Clock) (key : String) (value : α) (ttl : Int) :
    Outcome (Store α) (Except InsertError (Option α)) :=
  s.afterSweep c fun s =>
    match expiryAfter key c.now ttl with
    | .error err => (.error err, s)
    | .ok exp =>
      if (s.find? key).any (·.isLiveAt c.now) then (.ok (some value), s)
      else (.ok none, s.insert ⟨key, value, c.now, exp⟩)

def take (s : Store α) (c : Clock) (key : String) : Outcome (Store α) (Lookup α) :=
  s.afterSweep c fun s =>
    match s.find? key with
    | none => (.notFound, s)
    | some e => (if e.isExpiredAt c.now then .expired else .found e.value, s.erase key)

def read (s : Store α) (c : Clock) (key : String) : Outcome (Store α) (Lookup α) :=
  s.afterSweep c fun s =>
    match s.find? key with
    | none => (.notFound, s)
    | some e => if e.isExpiredAt c.now then (.expired, s.erase key) else (.found e.value, s)

def lookup (s : Store α) (c : Clock) (key : String) (consume : Bool) : Outcome (Store α) (Lookup α) :=
  if consume then s.take c key else s.read c key

def remove (s : Store α) (key : String) : Option α × Store α :=
  ((s.find? key).map (·.value), s.erase key)

/-- The entries live at `now` that satisfy a test, in key order. -/
def liveEntries (s : Store α) (now : Instant) (p : Entry α → Bool) : List (Entry α) :=
  (s.entries.filter fun e => e.isLiveAt now && p e).mergeSort fun a b => decide (a.key ≤ b.key)

def collectLive (s : Store α) (now : Instant) (p : α → Bool) : List α :=
  (s.liveEntries now fun e => p e.value).map (·.value)

end Store

end CredentialCache
