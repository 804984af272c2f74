import CredentialCache.Time.Instant
/-!
# Hand-driven clocks

A clock holds a raw signed 64-bit millisecond reading. The reading is what throttling compares;
the clock's instant is that reading read as a calendar instant, or the epoch when the reading has
left the calendar range. Advancing adds in 64-bit two's complement, so a reading can wrap.
-/

namespace CredentialCache

/-- A clock driven by hand: its raw 64-bit millisecond reading. -/
structure Clock where
  reading : Int
deriving DecidableEq, Repr

namespace Clock

def wrapWord (x : Int) : Int := Int.bmod x (Nat.pow 2 64)

def at_ (t : Instant) : Clock := ⟨t.ms⟩

def atEpoch : Clock := ⟨0⟩

/-- The clock's instant: its reading when that is a calendar instant, else the epoch. -/
def now (c : Clock) : Instant := (Instant.ofMs? c.reading).getD Instant.epoch

/-- Move the clock by a duration, wrapping as a 64-bit word. -/
def advance (c : Clock) (d : Int) : Clock := ⟨wrapWord (c.reading + d)⟩

def set (_ : Clock) (t : Instant) : Clock := ⟨t.ms⟩

/-- The system clock, read at a wall-clock millisecond since the epoch. Its reading is the one
every clock takes by default: the millisecond of its instant. -/
def system (wallMs : Nat) : Clock := ⟨wallMs⟩

def readingAgrees (c : Clock) : Bool := c.reading == c.now.ms

def start2020Ms : Int := 1577836800000

@[simp] theorem now_at (t : Instant) : (at_ t).now = t := by
  unfold now at_
  have h : Instant.ofMs? t.ms = some t := Instant.ofMs?_eq_some_iff.2 rfl
  simp [h]

theorem now_of_inRange {c : Clock} (h : Instant.InRange c.reading) : c.now.ms = c.reading := by
  unfold now
  have h' : Instant.ofMs? c.reading = some ⟨c.reading, h.1, h.2⟩ :=
    Instant.ofMs?_eq_some_iff.2 rfl
  simp [h']

end Clock

end CredentialCache
