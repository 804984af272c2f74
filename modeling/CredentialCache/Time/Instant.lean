/-!
# Instants

An instant is a whole number of milliseconds since the Unix epoch, inside the calendar range that
timestamps can be written in: from year -262143 up to the last millisecond of year 262142.
Adding a duration either stays in that range or has no result, so every stored expiry is a real
instant and comparisons need no overflow checks.
-/

namespace CredentialCache

def Instant.minMs : Int := -8334601228800000

def Instant.maxMs : Int := 8210266876799999

/-- A millisecond inside the calendar range. -/
structure Instant where
  ms : Int
  ge_min : Instant.minMs ≤ ms
  le_max : ms ≤ Instant.maxMs
deriving DecidableEq, Repr

namespace Instant

def InRange (ms : Int) : Prop := minMs ≤ ms ∧ ms ≤ maxMs

instance (ms : Int) : Decidable (InRange ms) := by
  unfold InRange; exact inferInstance

def ofMs? (ms : Int) : Option Instant :=
  if h : minMs ≤ ms ∧ ms ≤ maxMs then some ⟨ms, h.1, h.2⟩ else none

def epoch : Instant := ⟨0, by decide, by decide⟩

instance : LE Instant := ⟨fun a b => a.ms ≤ b.ms⟩
instance : LT Instant := ⟨fun a b => a.ms < b.ms⟩

instance (a b : Instant) : Decidable (a ≤ b) := Int.decLe a.ms b.ms
instance (a b : Instant) : Decidable (a < b) := Int.decLt a.ms b.ms

/-- The instant a duration after this one, if it is still in the calendar range. The sum is taken
over unbounded integers, so no duration overflows. -/
def addMs? (t : Instant) (d : Int) : Option Instant := ofMs? (t.ms + d)

def diffMs (b a : Instant) : Int := b.ms - a.ms

@[simp] theorem le_def {a b : Instant} : a ≤ b ↔ a.ms ≤ b.ms := Iff.rfl

@[simp] theorem lt_def {a b : Instant} : a < b ↔ a.ms < b.ms := Iff.rfl

theorem ext_ms {a b : Instant} (h : a.ms = b.ms) : a = b := by
  cases a; cases b; simp_all

theorem ofMs?_eq_some_iff {ms : Int} {t : Instant} : ofMs? ms = some t ↔ t.ms = ms := by
  unfold ofMs?
  split
  · constructor
    · intro h; cases h; rfl
    · intro h; congr 1; exact ext_ms h.symm
  · rename_i h
    constructor
    · intro h'; cases h'
    · intro h'; exact absurd ⟨h' ▸ t.ge_min, h' ▸ t.le_max⟩ h

theorem ofMs?_eq_none_iff {ms : Int} : ofMs? ms = none ↔ ¬ InRange ms := by
  unfold ofMs? InRange
  split <;> simp_all

end Instant

end CredentialCache
