import CredentialCache.Config.Layer
import CredentialCache.Text.Blank
/-!
# Settings from environment variables

Environment variables are read by prefix. A name, trimmed of white space, that starts with the
prefix in any case gives the key: the rest of the name trimmed again, lowercased, with a double
underscore nesting a key in a table. A key with an empty part (a leading, trailing or doubled
dot) is passed over.

A value is read in a small language of its own:

- `true` and `false`;
- a table `{key = value, …}`, a key being a double-quoted string or a run of ASCII letters,
  digits, `_` and `-`, and a later key winning over an equal earlier one;
- a list `[value, …]`;
- a double-quoted string with the escapes `\"`, `\\`, `\b`, `\f`, `\n`, `\r`, `\t`, `\uXXXX`
  and `\UXXXXXXXX`, holding no control character but the tab;
- one character between single quotes;
- otherwise a bare word, up to the next comma, brace or bracket and trimmed of white space: an
  unsigned integer below 2^64, else a signed 64-bit integer, else a float when it has a point and
  is a float literal, else text. Quotes inside a bare word are part of it.

ASCII blanks may stand around every value and every key, and a list or table may end with a
comma. A value that cannot be read to its end is taken as its whole text, untouched.
-/

namespace CredentialCache

namespace EnvValue

def isAsciiBlank (c : Char) : Bool :=
  c == ' ' || c == '\t' || c == '\n' || c == '\x0c' || c == '\r'

def isSeparator (c : Char) : Bool :=
  c == ',' || c == '\x7b' || c == '\x7d' || c == '[' || c == ']'

def isKeyChar (c : Char) : Bool := (c.isAlphanum && c.toNat < 128) || c == '_' || c == '-'

def skipBlank (cs : List Char) : List Char := cs.dropWhile isAsciiBlank

def digitsValue? (cs : List Char) : Option Nat :=
  if !cs.isEmpty && cs.all Char.isDigit then
    some (cs.foldl (fun acc c => 10 * acc + (c.toNat - '0'.toNat)) 0)
  else none

/-- Whether a text is a natural number as an unsigned parse accepts it: an optional plus sign
and at least one digit. -/
def unsignedText? (s : String) : Option Nat :=
  match s.toList with
  | '+' :: r => digitsValue? r
  | r => digitsValue? r

def signedText? (s : String) : Option Int :=
  match s.toList with
  | '-' :: r => (digitsValue? r).map fun n => -(n : Int)
  | '+' :: r => (digitsValue? r).map Int.ofNat
  | r => (digitsValue? r).map Int.ofNat

/-- A bare word as a value: an unsigned or signed integer in range, a float with a point, or
text. -/
def bareScalar (s : String) : Scalar :=
  match unsignedText? s with
  | some n => if n < Nat.pow 2 64 then .unsigned n else bareNonInteger s
  | none =>
    match signedText? s with
    | some n => if -Int.pow 2 63 ≤ n && n < Int.pow 2 63 then .signed n else bareNonInteger s
    | none => bareNonInteger s
where
  bareNonInteger (s : String) : Scalar :=
    if s.contains '.' then
      match Binary64.ofText? s with
      | some x => .float x
      | none => .text s
    else .text s

def quotedBody : List Char → Option (List Char × List Char)
  | [] => none
  | '"' :: rest => some ([], rest)
  | '\\' :: c :: rest => (quotedBody rest).map fun (b, r) => ('\\' :: c :: b, r)
  | c :: rest => if c == '\\' then none else (quotedBody rest).map fun (b, r) => (c :: b, r)

def hexDigit? (c : Char) : Option Nat :=
  if c.isDigit then some (c.toNat - '0'.toNat)
  else if 'a' ≤ c && c ≤ 'f' then some (c.toNat - 'a'.toNat + 10)
  else if 'A' ≤ c && c ≤ 'F' then some (c.toNat - 'A'.toNat + 10)
  else none

def hexChar? (n : Nat) (cs : List Char) : Option (Char × List Char) := do
  let ds ← (cs.take n).mapM hexDigit?
  if ds.length != n then none
  let v := ds.foldl (fun acc d => 16 * acc + d) 0
  if v < 0xD800 || (0xDFFF < v && v < 0x110000) then some (Char.ofNat v, cs.drop n) else none

/-- The text of a string body with its escapes resolved, or nothing if an escape is bad or a
control character other than the tab stands in it. -/
def unescape : Nat → List Char → Option (List Char)
  | 0, _ => none
  | _, [] => some []
  | fuel + 1, '\\' :: c :: rest =>
    let short (e : Char) := (unescape fuel rest).map (e :: ·)
    match c with
    | '"' => short '"'
    | '\\' => short '\\'
    | 'b' => short '\x08'
    | 'f' => short '\x0c'
    | 'n' => short '\n'
    | 'r' => short '\r'
    | 't' => short '\t'
    | 'u' => do let (e, r) ← hexChar? 4 rest; (e :: ·) <$> unescape fuel r
    | 'U' => do let (e, r) ← hexChar? 8 rest; (e :: ·) <$> unescape fuel r
    | _ => none
  | fuel + 1, c :: rest =>
    if c == '\\' then none
    else if c == '\t' || (0x20 ≤ c.toNat && c.toNat != 0x7F) then (unescape fuel rest).map (c :: ·)
    else none

def quoted (cs : List Char) : Option (String × List Char) := do
  let (body, rest) ← quotedBody cs
  let text ← unescape (body.length + 1) body
  pure (String.ofList text, rest)

def key (cs : List Char) : Option (String × List Char) :=
  match cs with
  | '"' :: rest => quoted rest
  | _ =>
    let k := cs.takeWhile isKeyChar
    if k.isEmpty then none else some (String.ofList k, cs.drop k.length)

mutual

def value (o : Origin) : Nat → List Char → Option (Setting × List Char)
  | 0, _ => none
  | fuel + 1, cs =>
    let cs := skipBlank cs
    let read : Option (Setting × List Char) :=
      if "true".toList.isPrefixOf cs then some (.scalar o (.bool true), cs.drop 4)
      else if "false".toList.isPrefixOf cs then some (.scalar o (.bool false), cs.drop 5)
      else match cs with
        | '\x7b' :: rest => (entries o fuel rest).map fun (es, r) => (.dict o es, r)
        | '[' :: rest => (items o fuel rest).map fun (vs, r) => (.list o vs, r)
        | '"' :: rest => (quoted rest).map fun (t, r) => (.scalar o (.text t), r)
        | '\'' :: c :: '\'' :: rest => some (.scalar o (.text c.toString), rest)
        | '\'' :: _ => none
        | _ =>
          let word := String.ofList (trimWhiteList (cs.takeWhile (!isSeparator ·)))
          some (.scalar o (bareScalar word), cs.dropWhile (!isSeparator ·))
    read.map fun (v, r) => (v, skipBlank r)

def items (o : Origin) : Nat → List Char → Option (List Setting × List Char)
  | 0, _ => none
  | fuel + 1, cs =>
    match cs with
    | ']' :: rest => some ([], rest)
    | _ => do
      let (v, rest) ← value o fuel cs
      match rest with
      | ',' :: rest => do
        let (vs, r) ← items o fuel rest
        pure (v :: vs, r)
      | ']' :: rest => pure ([v], rest)
      | _ => none

def entries (o : Origin) : Nat → List Char → Option (List (String × Setting) × List Char)
  | 0, _ => none
  | fuel + 1, cs =>
    match cs with
    | '\x7d' :: rest => some ([], rest)
    | _ => do
      let (k, rest) ← key (skipBlank cs)
      let rest ← match skipBlank rest with
        | '=' :: r => some r
        | _ => none
      let (v, rest) ← value o fuel (skipBlank rest)
      let rest := skipBlank rest
      match rest with
      | ',' :: rest => do
        let (es, r) ← entries o fuel rest
        pure (if es.any (·.1 == k) then es else (k, v) :: es, r)
      | '\x7d' :: rest => pure ([(k, v)], rest)
      | _ => none

end

end EnvValue

/-- An environment variable's value as a setting: read in the value language to its end, else
its whole text. -/
def Setting.ofEnvText (o : Origin) (raw : String) : Setting :=
  match EnvValue.value o (2 * raw.length + 4) raw.toList with
  | some (v, []) => v
  | _ => .scalar o (.text raw)

/-- The key path of an environment variable's name under a prefix, if it has one: the name
trimmed, the prefix matched in any case, the rest trimmed and lowercased, `__` separating the
parts, none of which may be empty. -/
def envKey? (pfx name : String) : Option (List String) :=
  let name := trimWhite name
  if (name.take pfx.length).toString.toUpper == pfx.toUpper && pfx.length ≤ name.length then
    let parts := ((trimWhite (name.drop pfx.length).toString).toLower.replace "__" ".").splitOn "."
    if parts.any (·.isEmpty) then none else some parts
  else none

/-- The settings of the environment variables under a prefix, later variables winning. -/
def Setting.ofEnvironment (pfx : String) (vars : List (String × String)) : Setting :=
  let o := Origin.environment pfx
  vars.foldl (fun acc (name, v) =>
    match envKey? pfx name with
    | some parts => acc.merge (Setting.nest o (Setting.ofEnvText o v) parts)
    | none => acc) (.dict o [])

end CredentialCache
