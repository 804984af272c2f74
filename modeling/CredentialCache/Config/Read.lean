import CredentialCache.Config.Basic
import CredentialCache.Config.Layer
/-!
# Reading settings into the configuration

The merged settings are read into the typed configuration field by field. Each table is read in
the order of its keys; a key that names no field is passed over, and a field with no key keeps its
default. A list stands for a table of its fields in their declared order. The first value of the wrong kind, or out of the field's range, stops the reading with a
complaint that names what was found, what was expected, the key and the value's source.
-/

namespace CredentialCache

/-- A complaint about a setting: what is wrong, at which key path, and from which source. -/
structure LoadError where
  complaint : String
  path : List String
  origin : Origin
deriving DecidableEq, Repr

def LoadError.text (e : LoadError) : String :=
  if e.path.isEmpty then e.complaint ++ " in " ++ e.origin.describe
  else e.complaint ++ " for key " ++ quoteText (e.origin.keyText e.path) ++ " in " ++ e.origin.describe

abbrev FieldReader (α : Type) := Setting → List String → Except LoadError α

namespace FieldReader

def wrongType (expected : String) (s : Setting) (path : List String) : LoadError :=
  ⟨s!"invalid type: found {s.found}, expected {expected}", path, s.origin⟩

def wrongValue (expected : String) (s : Setting) (path : List String) : LoadError :=
  ⟨s!"invalid value {s.found}, expected {expected}", path, s.origin⟩

def whole (expected : String) (bound : Nat) : FieldReader Nat := fun s path =>
  match s with
  | .scalar _ (.signed n) => if 0 ≤ n ∧ n < bound then .ok n.toNat else .error (wrongValue expected s path)
  | .scalar _ (.unsigned n) => if n < bound then .ok n else .error (wrongValue expected s path)
  | _ => .error (wrongType expected s path)

def text : FieldReader String := fun s path =>
  match s with
  | .scalar _ (.text t) => .ok t
  | _ => .error (wrongType "a string" s path)

def bool : FieldReader Bool := fun s path =>
  match s with
  | .scalar _ (.bool b) => .ok b
  | _ => .error (wrongType "a boolean" s path)

/-- A record read from a table or a list. From a table each key that names a field updates the
record, in key order. From a list the items update the fields in the order they are given, the
key of an item being its index; fields beyond the items keep their defaults, and items beyond
the fields are passed over. -/
def record {σ : Type} (name : String) (fields : List (String × (σ → FieldReader σ))) (init : σ) :
    FieldReader σ := fun s path =>
  match s with
  | .dict _ entries =>
    let sorted := entries.mergeSort fun a b => decide (a.1 ≤ b.1)
    sorted.foldlM (fun acc (k, v) =>
      match fields.lookup k with
      | some f => f acc v (path ++ [k])
      | none => pure acc) init
  | .list _ items =>
    ((fields.zip items).zipIdx).foldlM (fun acc (((_, f), v), i) => f acc v (path ++ [toString i])) init
  | _ => .error (wrongType ("struct " ++ name) s path)

end FieldReader

open FieldReader in
def CodeSettings.reader : FieldReader CodeSettings :=
  record "AuthorizationCodeConfig" [
    ("ttl_secs", fun c s p => do pure { c with ttlSecs := ← whole "u64" (Nat.pow 2 64) s p }),
    ("code_length", fun c s p => do pure { c with codeLength := ← whole "usize" (Nat.pow 2 64) s p }),
    ("max_collision_retries", fun c s p => do pure { c with maxCollisionRetries := ← whole "u32" (Nat.pow 2 32) s p })] {}

open FieldReader in
def TokenSettings.reader : FieldReader TokenSettings :=
  record "RevocableTokenConfig" [
    ("sweep_interval_secs", fun t s p => do pure { t with sweepIntervalSecs := ← whole "u64" (Nat.pow 2 64) s p })] {}

open FieldReader in
def TelemetrySettings.reader : FieldReader TelemetrySettings :=
  record "TelemetryConfig" [
    ("log_level", fun t s p => do pure { t with logLevel := ← text s p }),
    ("json", fun t s p => do pure { t with json := ← bool s p })] {}

open FieldReader in
def AppConfig.reader : FieldReader AppConfig :=
  record "AppConfig" [
    ("app_name", fun c s p => do pure { c with appName := ← text s p }),
    ("app_env", fun c s p => do pure { c with appEnv := ← text s p }),
    ("authorization_code", fun c s p => do pure { c with codes := ← CodeSettings.reader s p }),
    ("revocable_token", fun c s p => do pure { c with tokens := ← TokenSettings.reader s p }),
    ("telemetry", fun c s p => do pure { c with telemetry := ← TelemetrySettings.reader s p })] {}

end CredentialCache
