import CredentialCache.Toml.Basic
/-!
# Building a TOML document

A document is built one header or key/value line at a time. Tables are defined once: a header may
take over a table that earlier headers only implied, but not one already defined, nor a table made
by dotted keys; a dotted key may extend tables that dotted keys or longer headers implied, but no
table a header defined, no plain value and no inline table. Each refusal names the key, and a
header's refusal writes the key the way it would stand in a document: bare when it can be, else
as a basic string.
-/

namespace CredentialCache.Toml

/-- A table under construction: plain values, tables (with whether they are only implied by a
longer header, and whether dotted keys made them), and arrays of tables. -/
inductive Node
  | value (v : Value)
  | table (implicit dotted : Bool) (entries : List (String × Node))
  | tables (items : List (List (String × Node)))
deriving Repr, Inhabited

inductive DocError
  | duplicateKey (key : String) (table : Option (List String))
  | duplicateHeader (key : String) (parent : List String)
  | extendsValue (path : List String) (actual : String)
deriving Repr

def isBareKey (key : String) : Bool :=
  !key.isEmpty && key.all fun c => (c.isAlphanum && c.toNat < 128) || c == '-' || c == '_'

/-- A character as it stands in a basic string written for a key: the usual escapes, and other
control characters as four upper-case hex digits. -/
def basicChar (c : Char) : String :=
  match c with
  | '\x08' => "\\b"
  | '\t' => "\\t"
  | '\n' => "\\n"
  | '\x0c' => "\\f"
  | '\r' => "\\r"
  | '"' => "\\\""
  | '\\' => "\\\\"
  | _ =>
    if c.toNat ≤ 0x1F || c.toNat == 0x7F then
      let hex := String.ofList (Nat.toDigits 16 c.toNat) |>.toUpper
      "\\u" ++ "".pushn '0' (4 - hex.length) ++ hex
    else c.toString

def keyRepr (key : String) : String :=
  if isBareKey key then key else "\"" ++ String.join (key.toList.map basicChar) ++ "\""

def DocError.message : DocError → String
  | .duplicateKey key none => s!"duplicate key `{key}`"
  | .duplicateKey key (some []) => s!"duplicate key `{key}` in document root"
  | .duplicateKey key (some path) =>
    let p := String.intercalate "." path
    s!"duplicate key `{key}` in table `{p}`"
  | .duplicateHeader key [] => "duplicate key `" ++ keyRepr key ++ "` in document root"
  | .duplicateHeader key parent =>
    "duplicate key `" ++ keyRepr key ++ "` in table `" ++ String.intercalate "." parent ++ "`"
  | .extendsValue path actual =>
    let p := String.intercalate "." path
    s!"dotted key `{p}` attempted to extend non-table type ({actual})"

namespace Node

def lookup (entries : List (String × Node)) (key : String) : Option Node :=
  (entries.find? (·.1 == key)).map (·.2)

def set (entries : List (String × Node)) (key : String) (n : Node) : List (String × Node) :=
  if entries.any (·.1 == key) then entries.map fun e => if e.1 == key then (key, n) else e
  else entries ++ [(key, n)]

/-- Change the table reached by following `path` (with the names already passed in `done`),
creating implied tables marked `dotted` on the way. `f` gets the reached table's dotted mark and
its entries; into an array of tables the path goes through the last one. A dotted path may not
enter a table a header defined, nor, inside an inline table (`inline`), an inline table given
as a value. -/
def modify (f : Bool → List (String × Node) → Except DocError (List (String × Node))) (dotted inline : Bool) :
    List String → List String → Bool → List (String × Node) → Except DocError (List (String × Node))
  | _, [], here, entries => f here entries
  | done, k :: ks, _, entries =>
    match lookup entries k with
    | none => do
      let sub ← modify f dotted inline (done ++ [k]) ks dotted []
      pure (set entries k (.table true dotted sub))
    | some (.value (.table _)) =>
      if inline then throw (.duplicateKey k none) else throw (.extendsValue (done ++ [k]) "inline table")
    | some (.value v) => throw (.extendsValue (done ++ [k]) v.typeName)
    | some (.table imp d sub) => do
      if dotted && !imp then throw (.duplicateKey k none)
      let sub' ← modify f dotted inline (done ++ [k]) ks d sub
      pure (set entries k (.table imp d sub'))
    | some (.tables items) => do
      let last := items.getLast?.getD []
      let last' ← modify f dotted inline (done ++ [k]) ks false last
      pure (set entries k (.tables (items.dropLast ++ [last'])))

mutual
def toValue : Node → Value
  | .value v => v
  | .table _ _ es => .table (entriesToValue es)
  | .tables items => .array (itemsToValue items)

def entriesToValue : List (String × Node) → List (String × Value)
  | [] => []
  | (k, n) :: rest => (k, toValue n) :: entriesToValue rest

def itemsToValue : List (List (String × Node)) → List Value
  | [] => []
  | es :: rest => .table (entriesToValue es) :: itemsToValue rest
end

end Node

/-- A document under construction: the root's entries, and the path of the table that key/value
lines go into. -/
structure Builder where
  root : List (String × Node) := []
  current : List String := []
deriving Repr, Inhabited

namespace Builder

/-- Add `key = value` under the dotted prefix `path` to the current table. A duplicate names the
current table when `named` is set (inline tables name none). -/
def addPair (b : Builder) (path : List String) (key : String) (v : Value) (named : Bool := true) :
    Except DocError Builder := do
  let place (dotted : Bool) (entries : List (String × Node)) : Except DocError (List (String × Node)) :=
    if dotted == path.isEmpty then throw (.duplicateKey key none)
    else if (Node.lookup entries key).isSome then
      throw (.duplicateKey key (if named then some b.current else none))
    else pure (entries ++ [(key, .value v)])
  let inCurrent (_ : Bool) (entries : List (String × Node)) :=
    Node.modify place true (!named) b.current path false entries
  pure { b with root := ← Node.modify inCurrent false false [] b.current false b.root }

def openTable (b : Builder) (path : List String) : Except DocError Builder := do
  let parent := path.dropLast
  let key := path.getLast?.getD ""
  let place (_ : Bool) (entries : List (String × Node)) : Except DocError (List (String × Node)) :=
    match Node.lookup entries key with
    | none => pure (entries ++ [(key, .table false false [])])
    | some (.table true false sub) => pure (Node.set entries key (.table false false sub))
    | some _ => throw (.duplicateHeader key parent)
  pure { root := ← Node.modify place false false [] parent false b.root, current := path }

def openArrayTable (b : Builder) (path : List String) : Except DocError Builder := do
  let parent := path.dropLast
  let key := path.getLast?.getD ""
  let place (_ : Bool) (entries : List (String × Node)) : Except DocError (List (String × Node)) :=
    match Node.lookup entries key with
    | none => pure (entries ++ [(key, .tables [[]])])
    | some (.tables items) => pure (Node.set entries key (.tables (items ++ [[]])))
    | some _ => throw (.duplicateHeader key parent)
  pure { root := ← Node.modify place false false [] parent false b.root, current := path }

def finish (b : Builder) : Value := .table (Node.entriesToValue b.root)

end Builder

end CredentialCache.Toml
