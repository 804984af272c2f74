/-!
# Pseudo-random words

A small splitting generator (SplitMix64) gives the random words behind generated codes and ids.
Its state is a 64-bit word that advances by a fixed odd step; each output is a mixed copy of the
new state. Nothing is promised of the values beyond their range.
-/

namespace CredentialCache

structure Seed where
  state : UInt64
deriving DecidableEq, Repr

namespace Seed

def next (s : Seed) : UInt64 × Seed :=
  let z0 := s.state + 0x9E3779B97F4A7C15
  let z1 := (z0 ^^^ (z0 >>> 30)) * 0xBF58476D1CE4E5B9
  let z2 := (z1 ^^^ (z1 >>> 27)) * 0x94D049BB133111EB
  (z2 ^^^ (z2 >>> 31), ⟨z0⟩)

/-- A number below `bound` (which should be positive) and the state after it. -/
def below (s : Seed) (bound : Nat) : Nat × Seed :=
  let (w, s') := s.next
  (w.toNat % bound, s')

def bits (s : Seed) : Nat → Nat × Seed
  | 0 => (0, s)
  | n + 1 =>
    let (w, s') := s.next
    let (rest, s'') := s'.bits n
    ((rest * 2 + w.toNat % 2), s'')

end Seed

end CredentialCache
