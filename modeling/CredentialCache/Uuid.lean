import CredentialCache.Random
/-!
# Identifiers

Identifiers are RFC 9562 UUIDs written as 36 characters of lowercase hex in five dash-separated
groups. A version 4 id is random; a version 7 id starts with the millisecond time, so ids made
later sort later. The version sits in bits 76 to 79 and the variant `10` in bits 62 and 63.
-/

namespace CredentialCache

structure Uuid where
  bits : Nat
deriving DecidableEq, Repr

namespace Uuid

/-- Set the version nibble and the variant bits of 128 random bits. -/
def stamp (version : Nat) (raw : Nat) : Uuid :=
  let r := raw % Nat.pow 2 128
  let noVersion := r - ((r >>> 76) % 16) * Nat.pow 2 76
  let withVersion := noVersion + version * Nat.pow 2 76
  let noVariant := withVersion - ((withVersion >>> 62) % 4) * Nat.pow 2 62
  ⟨noVariant + 2 * Nat.pow 2 62⟩

def random (s : Seed) : Uuid × Seed :=
  let (r, s') := s.bits 128
  (stamp 4 r, s')

def timeOrdered (ms : Nat) (s : Seed) : Uuid × Seed :=
  let (r, s') := s.bits 80
  (stamp 7 ((ms % Nat.pow 2 48) * Nat.pow 2 80 + r), s')

def version (u : Uuid) : Nat := (u.bits >>> 76) % 16

def hexDigits (width n : Nat) : String :=
  let ds := (List.range width).reverse.map fun i =>
    Nat.toDigits 16 ((n >>> (4 * i)) % 16)
  String.join (ds.map String.ofList)

def toText (u : Uuid) : String :=
  let h := hexDigits 32 u.bits
  let g (a n : Nat) := String.ofList ((h.toList.drop a).take n)
  g 0 8 ++ "-" ++ g 8 4 ++ "-" ++ g 12 4 ++ "-" ++ g 16 4 ++ "-" ++ g 20 12

end Uuid

end CredentialCache
