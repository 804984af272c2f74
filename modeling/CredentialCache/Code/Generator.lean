import CredentialCache.Error
import CredentialCache.Random
/-!
# Code generators

A code generator hands out candidate authorization codes. The random one draws a fixed number of
ASCII letters and digits; a scripted one replays a list of codes and failures in order, and fails
once the list is used up. Either may fail, and a failure is an internal error.
-/

namespace CredentialCache

inductive ScriptItem
  | code (code : String)
  | failure (message : String)
deriving DecidableEq, Repr

/-- A source of candidate codes. -/
inductive CodeGenerator
  | random (length : Nat) (seed : Seed)
  | scripted (items : List ScriptItem)
deriving Repr

def CodeGenerator.alphabet : List Char :=
  ("ABCDEFGHIJKLMNOPQRSTUVWXYZabcdefghijklmnopqrstuvwxyz0123456789").toList

def CodeGenerator.defaultLength : Nat := 10

def CodeGenerator.draw (s : Seed) : Nat → List Char × Seed
  | 0 => ([], s)
  | n + 1 =>
    let (i, s') := s.below 62
    let (rest, s'') := CodeGenerator.draw s' n
    (CodeGenerator.alphabet.getD i 'A' :: rest, s'')

/-- A random generator of the given length; a length of zero is refused. -/
def CodeGenerator.randomOfLength (length : Nat) (seed : Seed) : Except AppError CodeGenerator :=
  if length = 0 then .error (.invalidArgument "Authorization code length must be positive")
  else .ok (.random length seed)

/-- The next candidate code, or the failure met, and the generator after it. -/
def CodeGenerator.generate : CodeGenerator → Except AppError String × CodeGenerator
  | .random length seed =>
    let (cs, seed') := CodeGenerator.draw seed length
    (.ok (String.ofList cs), .random length seed')
  | .scripted [] => (.error (.internal "no more codes"), .scripted [])
  | .scripted (.code c :: rest) => (.ok c, .scripted rest)
  | .scripted (.failure m :: rest) => (.error (.internal m), .scripted rest)

def isAlphanumeric (s : String) : Bool := s.all Char.isAlphanum

end CredentialCache
