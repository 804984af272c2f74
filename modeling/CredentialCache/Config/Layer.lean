import CredentialCache.Toml.Basic
import CredentialCache.Text.Quote
/-!
# Layers of settings

Settings come in layers: TOML texts or files, then environment variables. Each value remembers
the source it came from, so that a complaint about it can name the source. Layers are merged in
order: a later layer's value replaces an earlier one, except that two tables are merged key by
key.
-/

namespace CredentialCache

inductive Origin
  | tomlText
  | tomlFile (path : String)
  | environment (pfx : String)
deriving DecidableEq, Repr

namespace Origin

def describe : Origin → String
  | .tomlText => "TOML source string"
  | .tomlFile path => path ++ " TOML file"
  | .environment pfx => "`" ++ pfx ++ "` environment variable(s)"

/-- How a message names the key at a path: environment keys as upper-case names joined by dots,
others under the profile name "default". -/
def keyText : Origin → List String → String
  | .environment _, path => String.intercalate "." (path.map String.toUpper)
  | _, path => String.intercalate "." ("default" :: path)

end Origin

inductive Scalar
  | text (s : String)
  | signed (n : Int)
  | unsigned (n : Nat)
  | float (x : Binary64)
  | bool (b : Bool)
deriving DecidableEq, Repr

/-- A setting: a value, a list, or a table, each with its source. -/
inductive Setting
  | scalar (origin : Origin) (v : Scalar)
  | list (origin : Origin) (items : List Setting)
  | dict (origin : Origin) (entries : List (String × Setting))
deriving Repr

instance : Inhabited Setting := ⟨.dict .tomlText []⟩

namespace Setting

def origin : Setting → Origin
  | .scalar o _ | .list o _ | .dict o _ => o

def found : Setting → String
  | .scalar _ (.text s) => "string " ++ quoteText s
  | .scalar _ (.signed n) => s!"signed int `{n}`"
  | .scalar _ (.unsigned n) => s!"unsigned int `{n}`"
  | .scalar _ (.float x) => "float `" ++ x.toText ++ "`"
  | .scalar _ (.bool b) => s!"bool {b}"
  | .list _ _ => "sequence"
  | .dict _ _ => "map"

mutual
/-- A TOML value as a setting from a source; a date-time is a table holding its text. -/
def ofToml (o : Origin) : Toml.Value → Setting
  | .string s => .scalar o (.text s)
  | .integer n => .scalar o (.signed n)
  | .float x => .scalar o (.float x)
  | .boolean b => .scalar o (.bool b)
  | .datetime t => .dict o [("$__toml_private_datetime", .scalar o (.text t))]
  | .array items => .list o (ofTomlItems o items)
  | .table entries => .dict o (ofTomlEntries o entries)

def ofTomlItems (o : Origin) : List Toml.Value → List Setting
  | [] => []
  | v :: rest => ofToml o v :: ofTomlItems o rest

def ofTomlEntries (o : Origin) : List (String × Toml.Value) → List (String × Setting)
  | [] => []
  | (k, v) :: rest => (k, ofToml o v) :: ofTomlEntries o rest
end

mutual
/-- Merge a later setting over an earlier one: tables key by key, anything else replaced. -/
def merge : Setting → Setting → Setting
  | .dict o a, .dict _ b => .dict o (mergeEntries a b)
  | _, later => later

def mergeEntries : List (String × Setting) → List (String × Setting) → List (String × Setting)
  | a, [] => a
  | a, (k, v) :: rest =>
    let a' := match a.find? (·.1 == k) with
      | some (_, e) => a.map fun x => if x.1 == k then (k, merge e v) else x
      | none => a ++ [(k, v)]
    mergeEntries a' rest
end

/-- A value nested under a key path; an empty part ends the nesting. -/
def nest (o : Origin) (v : Setting) : List String → Setting
  | [] => v
  | k :: rest => if k.isEmpty then v else .dict o [(k, nest o v rest)]

end Setting

end CredentialCache
