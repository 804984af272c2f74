import CredentialCache.Telemetry.Log
import CredentialCache.Telemetry.Pattern
import CredentialCache.Text.Blank
import CredentialCache.Text.Unicode
import CredentialCache.Number.Binary64
/-!
# Level filters

A level filter is a comma-separated list of directives, each of the form
`target[span{field,…}]=level`, every part optional. A directive with a level alone (`debug`)
is about every target; a target alone (`credstore`) admits every level for it. The level is a
name in any case or a number from 0 to 5 (leading zeros and a plus sign allowed) standing for
off, error, warn, info, debug and trace; a target that reads as a level is that level.

A directive is read character by character, over its text trimmed of white space. Its first
character is `[`, or a letter, digit, `-`, `:` or `_`; after a target may come `=` and a level
or a bracketed span; a span ends in `]`, or in `{` and a field list closed by `}` and `]`; after
the bracket only `=` and a level may follow. The parts are cut from the untrimmed text at the
positions found in the trimmed one, so white space around a directive travels into its last part:
` debug` is a target, and so is `debug `.

Records are made outside every span, so only directives that name no span and match no field
value bear on them. Such a directive is about a record when its target, if any, begins the
record's target and the record has every field it names. Of the directives about a record the
most specific decides: the longer target, then more fields, then the greater target and fields;
of two with the same target and fields the later one stands. A record that no directive is about
is not admitted, so an empty filter admits nothing.
-/

namespace CredentialCache

structure FieldMatch where
  name : String
  hasValue : Bool
deriving DecidableEq, Repr

/-- One directive of a level filter. -/
structure Directive where
  target : Option String
  inSpan : Option String := none
  fields : List FieldMatch := []
  verbosity : Nat
deriving DecidableEq, Repr

inductive DirectiveError
  | invalid
  | level
  | field (reason : String)
deriving DecidableEq, Repr

def DirectiveError.message : DirectiveError → String
  | .invalid => "invalid filter directive"
  | .level =>
    "error parsing level filter: expected one of \"off\", \"error\", \"warn\", \"info\", \"debug\", \"trace\", or a number 0-5"
  | .field reason => "invalid field filter: " ++ reason

def unsignedNumber? (s : String) : Option Nat :=
  let ds := match s.toList with
    | '+' :: r => r
    | r => r
  if !ds.isEmpty && ds.all Char.isDigit then some (String.ofList ds).toNat! else none

/-- A level as a verbosity: a number from 0 to 5, or a level name in any ASCII case. -/
def levelText? (s : String) : Option Nat :=
  match unsignedNumber? s with
  | some n => if n ≤ 5 then some n else levelName? s
  | none => levelName? s
where
  levelName? (s : String) : Option Nat :=
    match s.toLower with
    | "off" => some 0
    | "error" => some 1
    | "warn" => some 2
    | "info" => some 3
    | "debug" => some 4
    | "trace" => some 5
    | _ => none

/-- A field of a field list: a name, and after `=` a value that is a boolean, a number, or else
a regular expression, which must compile. Text after a second `=` is ignored. -/
def FieldMatch.parse (s : String) : Except DirectiveError FieldMatch :=
  match s.splitOn "=" with
  | [] | [_] => .ok ⟨s, false⟩
  | name :: value :: _ =>
    let plain := value == "true" || value == "false" || (unsignedNumber? value).isSome ||
      (match value.toList with
        | '-' :: r => (unsignedNumber? (String.ofList r)).isSome
        | _ => false) || (Binary64.ofText? value).isSome
    if plain then .ok ⟨name, true⟩ else
    match Pattern.check value with
    | .ok () => .ok ⟨name, true⟩
    | .error e => .error (.field e.message)

inductive DirectiveState
  | start
  | levelOrTarget (start : Nat)
  | span (start : Nat)
  | field (start : Nat)
  | fieldsDone
  | target
  | level (start : Nat)
deriving DecidableEq, Repr

def byteSlice (s : String) (a b : Nat) : Option String := String.fromUTF8? (s.toUTF8.extract a b)

def levelAfter (text : String) : Except DirectiveError Nat :=
  if text.isEmpty then .ok 5 else
  match levelText? text with
  | some v => .ok v
  | none => .error .level

namespace Directive

def cut (s : String) (a b : Nat) : Except DirectiveError String :=
  match byteSlice s a b with
  | some t => .ok t
  | none => .error .invalid

/-- Read one character at byte offset `i` of the trimmed text, `s` being the untrimmed text. -/
def step (s : String) (d : Directive) : DirectiveState → Nat × Char →
    Except DirectiveError (Directive × DirectiveState)
  | .start, (i, c) =>
    if c == '[' then .ok (d, .span (i + 1))
    else if c == '-' || c == ':' || c == '_' || isUnicodeAlnum c then .ok (d, .levelOrTarget i)
    else .error .invalid
  | .levelOrTarget start, (i, c) =>
    if c == '=' then do .ok ({ d with target := some (← cut s start i) }, .level (i + 1))
    else if c == '[' then do .ok ({ d with target := some (← cut s start i) }, .span (i + 1))
    else .ok (d, .levelOrTarget start)
  | .target, (i, c) => if c == '=' then .ok (d, .level (i + 1)) else .error .invalid
  | .span start, (i, c) =>
    if c == ']' then do .ok ({ d with inSpan := some (← cut s start i) }, .target)
    else if c == '\x7b' then do
      let name ← cut s start i
      .ok ({ d with inSpan := if name.isEmpty then none else some name }, .field (i + 1))
    else .ok (d, .span start)
  | .field start, (i, c) =>
    if c == '\x7d' || c == ',' then do
      let text ← cut s start i
      if text.isEmpty then .error .invalid
      let f ← FieldMatch.parse text
      .ok ({ d with fields := d.fields ++ [f] }, if c == ',' then .field (i + 1) else .fieldsDone)
    else .ok (d, .field start)
  | .fieldsDone, (_, c) => if c == ']' then .ok (d, .target) else .error .invalid
  | .level start, _ => .ok (d, .level start)

def offsets (cs : List Char) : List (Nat × Char) :=
  (cs.foldl (fun (acc : List (Nat × Char) × Nat) c => ((acc.2, c) :: acc.1, acc.2 + c.utf8Size)) ([], 0)).1.reverse

def parse (s : String) : Except DirectiveError Directive := do
  let trimmed := trimWhite s
  let (d, st) ← (offsets trimmed.toList).foldlM (fun (d, st) ic => step s d st ic)
    ({ target := none, verbosity := 5 }, DirectiveState.start)
  let len := s.utf8ByteSize
  match st with
  | .levelOrTarget start =>
    let text ← cut s start len
    match levelText? text with
    | some v => .ok { d with target := none, verbosity := v }
    | none => .ok { d with target := some text, verbosity := 5 }
  | .level start => .ok { d with verbosity := ← levelAfter (← cut s start len) }
  | .target => .ok d
  | _ => .error .invalid

/-- Whether the directive bears on records made outside spans: it names no span and matches no
field value. -/
def isStatic (d : Directive) : Bool := d.inSpan.isNone && d.fields.all (!·.hasValue)

def fieldNames (d : Directive) : List String := d.fields.map (·.name)

def isAbout (d : Directive) (r : Record) : Bool :=
  d.isStatic && d.target.all (r.target.startsWith ·) && d.fieldNames.all (r.fieldNames.contains ·)

def optionBelow : Option Nat → Option Nat → Bool
  | none, some _ => true
  | some x, some y => decide (x < y)
  | _, _ => false

def optionTextBelow : Option String → Option String → Bool
  | none, some _ => true
  | some x, some y => decide (x < y)
  | _, _ => false

def textsBelow : List String → List String → Bool
  | [], _ :: _ => true
  | x :: xs, y :: ys => decide (x < y) || (x == y && textsBelow xs ys)
  | _, _ => false

/-- Whether `a` is more specific than `b`: a longer target in bytes (any target beats none), then
more fields, then the greater target, then the greater field names. -/
def moreSpecific (a b : Directive) : Bool :=
  let la := a.target.map (·.utf8ByteSize)
  let lb := b.target.map (·.utf8ByteSize)
  if la != lb then optionBelow lb la
  else if a.fields.length != b.fields.length then decide (b.fields.length < a.fields.length)
  else if a.target != b.target then optionTextBelow b.target a.target
  else textsBelow b.fieldNames a.fieldNames

end Directive

structure LevelFilter where
  directives : List Directive := []
deriving DecidableEq, Repr

namespace LevelFilter

def pieces (s : String) : List String := (s.splitOn ",").filter (!·.isEmpty)

def parse (s : String) : Except DirectiveError LevelFilter :=
  (pieces s).mapM Directive.parse |>.map fun ds => ⟨ds⟩

/-- Read a filter leniently: the pieces that are directives make the filter, and the others are
handed back with their refusals to be reported. -/
def parseLenient (s : String) : LevelFilter × List (String × DirectiveError) :=
  let ps := pieces s
  (⟨ps.filterMap fun p => (Directive.parse p).toOption⟩,
   ps.filterMap fun p => match Directive.parse p with
     | .ok _ => none
     | .error e => some (p, e))

/-- The directive that decides about a record: the most specific one about it, the later of
two equally specific ones. -/
def decider? (f : LevelFilter) (r : Record) : Option Directive :=
  (f.directives.filter (·.isAbout r)).foldl (fun best d => match best with
    | some b => if b.moreSpecific d then some b else some d
    | none => some d) none

def admits (f : LevelFilter) (r : Record) : Bool :=
  match f.decider? r with
  | some d => r.level.verbosity ≤ d.verbosity
  | none => false

end LevelFilter

end CredentialCache
