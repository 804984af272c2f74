import CredentialCache.Text.Blank
import CredentialCache.Text.Unicode
/-!
# Regular expressions a field filter can compile

A field filter may match a field's value against a regular expression, which is compiled into a
deterministic automaton over UTF-8 text. The automaton is built without Unicode tables, and a
directive whose expression does not compile is refused. This module decides whether an
expression compiles, and why not.

The syntax is the usual one: alternatives separated by `|`; groups `( … )`, non-capturing
`(?: … )`, named `(?P<name> … )` or `(?<name> … )`; flag settings `(?flags)` and
`(?flags: … )` over the flags `i m s U u x R`, each at most once and with at most one `-`, which
may not end them; repetitions `*`, `+`, `?` and counts `{n}`, `{n,}`, `{n,m}` with `n ≤ m` below
2^32, made lazy by a further `?`, each needing something before it that is not a flag setting;
classes in brackets, with ranges in order, escapes, nested classes, the classes `[:name:]` of
the fourteen ASCII names and the operators `&&`, `--` and `~~`; escapes of the punctuation,
`\a \f \t \n \r \v`, code points `\x`, `\u`, `\U` (two, four or eight hex digits, or any in
braces), Perl classes `\d \s \w` and their negations, Unicode classes `\p` and `\P`, and the
assertions `\A \z \b \B \< \>` and `\b{start}`, `\b{end}`, `\b{start-half}`, `\b{end-half}`.
Back-references and look-around are not supported, and the `x` flag lets white space and
`#` comments stand between the parts.

A well-formed expression is still refused when

- its syntax tree nests deeper than 250, counting groups, repetitions, concatenations,
  alternations, classes, their unions and their operators;
- it needs the Unicode tables: a Unicode class, a Perl class or a case-insensitive literal or
  class while the `u` flag is on (as it is at first);
- it could match bytes that are not UTF-8, with the `u` flag off: the dot, a negated class or
  `\B`, a byte `\xNN` above 0x7F, or a character beyond ASCII in a class;

and only after all that, when a Unicode word boundary remains in it, one not under a repetition
of at most zero times: the automaton cannot decide those.
-/

namespace CredentialCache.Pattern

/-- Why an expression does not compile. -/
inductive PatternError
  | malformed
  | unicodeWordBoundary
deriving DecidableEq, Repr

def PatternError.message : PatternError → String
  | .malformed => "error building NFA"
  | .unicodeWordBoundary =>
    "unsupported regex feature for DFAs: cannot build DFAs for regexes with Unicode word boundaries; switch to ASCII word boundaries, or heuristically enable Unicode word boundaries or use a different regex engine"

def nestLimit : Nat := 250

/-- The flags that bear on compiling, as they stand at a point of an expression. -/
structure Flags where
  caseless : Bool := false
  unicode : Bool := true
  extended : Bool := false
deriving DecidableEq, Repr

/-- What matters of a parsed part: the depth of its syntax tree, and whether a Unicode word
boundary in it reaches the automaton. -/
structure Shape where
  depth : Nat := 0
  word : Bool := false
deriving DecidableEq, Repr

def deepest (ds : List Nat) : Nat := ds.foldl max 0

/-- The shape of a sequence or of alternatives: nothing for none, the part itself for one, and a
node one deeper than its deepest part for more. -/
def Shape.join : List Shape → Shape
  | [] => {}
  | [s] => s
  | ss => { depth := 1 + deepest (ss.map (·.depth)), word := ss.any (·.word) }

def skipSpace (extended : Bool) (cs : List Char) : List Char :=
  if extended then go false cs else cs
where
  go (comment : Bool) : List Char → List Char
    | [] => []
    | c :: rest =>
      if comment then go (c != '\n') rest
      else if isWhiteSpace c then go false rest
      else if c == '#' then go true rest
      else c :: rest

def isHex (c : Char) : Bool := c.isDigit || ('a' ≤ c && c ≤ 'f') || ('A' ≤ c && c ≤ 'F')

def hexValue (cs : List Char) : Nat :=
  cs.foldl (fun acc c =>
    let d := if c.isDigit then c.toNat - '0'.toNat
      else if 'a' ≤ c && c ≤ 'f' then c.toNat - 'a'.toNat + 10
      else c.toNat - 'A'.toNat + 10
    16 * acc + d) 0

def isScalar (n : Nat) : Bool := n < 0xD800 || (0xDFFF < n && n < 0x110000)

/-- Whether a character is ASCII but no letter or digit: the characters a backslash may escape
to stand for themselves, `<` and `>` apart. -/
def isEscapable (c : Char) : Bool :=
  c.toNat < 0x80 && !c.isAlphanum && c != '<' && c != '>'

inductive Escape
  /-- One character; `byte` when written as exactly two hex digits after `\x`, which without
  the `u` flag is a byte. -/
  | literal (c : Char) (byte : Bool)
  | perl (negated : Bool)
  | property
  | wordBoundary (negated : Bool)
  | anchor
deriving DecidableEq, Repr

def codePoint (width : Nat) (cs : List Char) : Option (Escape × List Char) :=
  match cs with
  | '\x7b' :: rest =>
    let ds := rest.takeWhile isHex
    match rest.dropWhile isHex with
    | '\x7d' :: after =>
      if !ds.isEmpty && isScalar (hexValue ds) then some (.literal (Char.ofNat (hexValue ds)) false, after)
      else none
    | _ => none
  | _ =>
    let ds := cs.take width
    if ds.length == width && ds.all isHex && isScalar (hexValue ds) then
      some (.literal (Char.ofNat (hexValue ds)) (width == 2), cs.drop width)
    else none

/-- The special word boundaries after `\b`: a name in braces. The answer is none when the brace
does not start one (it is then a count), and an error when it starts one that is bad. -/
def specialBoundary (cs : List Char) : Except Unit (Option (List Char)) :=
  let isNameChar (c : Char) : Bool := c.isAlpha || c == '-'
  match cs with
  | '\x7b' :: c :: rest =>
    if !isNameChar c then .ok none else
    let name := (c :: rest).takeWhile isNameChar
    match (c :: rest).dropWhile isNameChar with
    | '\x7d' :: after =>
      if [ "start", "end", "start-half", "end-half" ].contains (String.ofList name) then .ok (some after)
      else .error ()
    | _ => .error ()
  | ['\x7b'] => .error ()
  | _ => .ok none

def escape (cs : List Char) : Option (Escape × List Char) :=
  match cs with
  | [] => none
  | c :: rest =>
    if isEscapable c then some (.literal c false, rest)
    else match c with
      | 'a' => some (.literal '\x07' false, rest)
      | 'f' => some (.literal '\x0c' false, rest)
      | 't' => some (.literal '\t' false, rest)
      | 'n' => some (.literal '\n' false, rest)
      | 'r' => some (.literal '\r' false, rest)
      | 'v' => some (.literal '\x0b' false, rest)
      | 'x' => codePoint 2 rest
      | 'u' => codePoint 4 rest
      | 'U' => codePoint 8 rest
      | 'd' | 's' | 'w' => some (.perl false, rest)
      | 'D' | 'S' | 'W' => some (.perl true, rest)
      | 'p' | 'P' =>
        match rest with
        | '\x7b' :: r =>
          match r.dropWhile (· != '\x7d') with
          | '\x7d' :: after => some (.property, after)
          | _ => none
        | '\\' :: _ => none
        | _ :: r => some (.property, r)
        | [] => none
      | 'A' | 'z' => some (.anchor, rest)
      | 'B' => some (.wordBoundary true, rest)
      | '<' | '>' => some (.wordBoundary false, rest)
      | 'b' =>
        match specialBoundary rest with
        | .ok (some after) => some (.wordBoundary false, after)
        | .ok none => some (.wordBoundary false, rest)
        | .error () => none
      | _ => none

def asciiClassNames : List String :=
  ["alnum", "alpha", "ascii", "blank", "cntrl", "digit", "graph", "lower", "print", "punct",
    "space", "upper", "word", "xdigit"]

def asciiClass (cs : List Char) : Option (Bool × List Char) :=
  match cs with
  | ':' :: rest =>
    let (negated, rest) := match rest with
      | '^' :: r => (true, r)
      | r => (false, r)
    let name := rest.takeWhile (· != ':')
    match rest.dropWhile (· != ':') with
    | ':' :: ']' :: after =>
      if !name.isEmpty && asciiClassNames.contains (String.ofList name) then some (negated, after)
      else none
    | _ => none
  | _ => none

def classCharOk (f : Flags) (c : Char) : Bool := f.unicode || c.toNat < 0x80

def classEscapeOk (f : Flags) : Escape → Bool
  | .literal c _ => classCharOk f c
  | .perl negated => !f.unicode && !negated
  | _ => false

def classLiteral (cs : List Char) : Option (Char × List Char) :=
  match cs with
  | '\\' :: rest =>
    match escape rest with
    | some (.literal c _, after) => some (c, after)
    | _ => none
  | c :: rest => some (c, rest)
  | [] => none

def classRange (f : Flags) (cs : List Char) : Option (List Char) := do
  let (first, after) ← match cs with
    | '\\' :: rest => escape rest
    | c :: rest => some (.literal c false, rest)
    | [] => none
  let after := skipSpace f.extended after
  if after.isEmpty then none
  let isRange := match after with
    | '-' :: more =>
      match skipSpace f.extended more with
      | ']' :: _ | '-' :: _ => false
      | _ => true
    | _ => false
  if !isRange then
    if classEscapeOk f first then pure after else none
  else
    let lo ← match first with
      | .literal c _ => some c
      | _ => none
    let (hi, rest) ← classLiteral (skipSpace f.extended (after.drop 1))
    if lo ≤ hi && classCharOk f lo && classCharOk f hi then pure rest else none

def unionDepth : List Nat → Nat
  | [] => 0
  | [d] => d
  | ds => 1 + deepest ds

mutual

/-- A class after its opening bracket, through its closing one: its depth and the rest. The
opening may negate the class and take a leading run of `-`, or else a leading `]`, as literals.
Without the `u` flag a negated class leaves ASCII; with it and the `i` flag the class needs
case folding. -/
def classSet : Nat → Flags → List Char → Option (Nat × List Char)
  | 0, _, _ => none
  | fuel + 1, f, cs =>
    let cs := skipSpace f.extended cs
    let (negated, cs) := match cs with
      | '^' :: rest => (true, skipSpace f.extended rest)
      | _ => (false, cs)
    if (negated && !f.unicode) || (f.unicode && f.caseless) then none else
    let dashes := cs.takeWhile (· == '-')
    let (items, cs) :=
      if dashes.isEmpty then
        match cs with
        | ']' :: rest => ([0], rest)
        | _ => ([], cs)
      else (dashes.map fun _ => 0, cs.drop dashes.length)
    (classItems fuel f none items cs).map fun (d, rest) => (1 + d, rest)

/-- The items of a class through its closing bracket: `lhs` is the depth of the left operand of
the operator read last, `items` the depths of the items since. The depth of the whole and the
rest. -/
def classItems : Nat → Flags → Option Nat → List Nat → List Char → Option (Nat × List Char)
  | 0, _, _, _, _ => none
  | fuel + 1, f, lhs, items, cs =>
    let operand := match lhs with
      | none => unionDepth items
      | some l => 1 + max l (unionDepth items)
    match skipSpace f.extended cs with
    | [] => none
    | ']' :: rest => some (operand, rest)
    | '&' :: '&' :: rest | '-' :: '-' :: rest | '~' :: '~' :: rest =>
      classItems fuel f (some operand) [] rest
    | '[' :: rest =>
      match asciiClass rest with
      | some (negated, after) =>
        if negated && !f.unicode then none else classItems fuel f lhs (items ++ [0]) after
      | none => do
        let (d, after) ← classSet fuel f rest
        classItems fuel f lhs (items ++ [d]) after
    | cs => do
      let after ← classRange f cs
      classItems fuel f lhs (items ++ [0]) after

end

/-- The flags after applying the letters of a flag setting: those before a `-` are set and
those after it cleared. Each letter may stand once, `-` once and not last, and the setting may
be empty only before a colon. The flags and the rest after the colon or the closing parenthesis,
with whether it was the parenthesis. -/
def setFlags (f : Flags) (cs : List Char) : Option (Flags × Bool × List Char) :=
  let letters := cs.takeWhile fun c => c != ':' && c != ')'
  let rest := cs.dropWhile fun c => c != ':' && c != ')'
  let known := letters.all fun c => "imsUuxR-".toList.contains c
  let once := letters.all fun c => (letters.filter (· == c)).length == 1
  let on (c : Char) (v : Bool) : Bool :=
    match letters.idxOf? c with
    | some i => !(letters.take i).contains '-'
    | none => v
  let f' : Flags := { caseless := on 'i' f.caseless, unicode := on 'u' f.unicode, extended := on 'x' f.extended }
  if !known || !once || letters.getLast? == some '-' then none else
  match rest with
  | ')' :: after => if letters.isEmpty then none else some (f', true, after)
  | ':' :: after => some (f', false, after)
  | _ => none

def isNameChar (first : Bool) (c : Char) : Bool :=
  c == '_' || (if first then isUnicodeAlpha c else c == '.' || c == '[' || c == ']' || isUnicodeAlnum c)

def captureName (cs : List Char) : Option (String × List Char) :=
  let name := cs.takeWhile (· != '>')
  match cs.dropWhile (· != '>') with
  | '>' :: after =>
    match name with
    | c :: more =>
      if isNameChar true c && more.all (isNameChar false) then some (String.ofList name, after) else none
    | [] => none
  | _ => none

structure State where
  flags : Flags := {}
  names : List String := []
deriving DecidableEq, Repr

def Shape.repeated (s : Shape) (none_ : Bool) : Shape :=
  { depth := s.depth + 1, word := s.word && !none_ }

def lazy (cs : List Char) : List Char :=
  match cs with
  | '?' :: rest => rest
  | _ => cs

def decimal (cs : List Char) : Option (Nat × List Char) :=
  let cs := cs.dropWhile isWhiteSpace
  let ds := cs.takeWhile Char.isDigit
  let n := ds.foldl (fun acc d => 10 * acc + (d.toNat - '0'.toNat)) 0
  if ds.isEmpty || n ≥ 0x100000000 then none
  else some (n, (cs.dropWhile Char.isDigit).dropWhile isWhiteSpace)

def count (extended : Bool) (cs : List Char) : Option (Bool × List Char) := do
  let (lo, rest) ← decimal (skipSpace extended cs)
  match rest with
  | '\x7d' :: after => pure (lo == 0, after)
  | ',' :: more =>
    match skipSpace extended more with
    | '\x7d' :: after => pure (false, after)
    | more => do
      let (hi, rest) ← decimal more
      match rest with
      | '\x7d' :: after => if lo ≤ hi then pure (hi == 0, after) else none
      | _ => none
  | _ => none

inductive Opening
  | setting (f : Flags)
  | group (f : Flags) (name : Option String)

def opening (f : Flags) (cs : List Char) : Option (Opening × List Char) :=
  match cs with
  | '?' :: '=' :: _ | '?' :: '!' :: _ | '?' :: '<' :: '=' :: _ | '?' :: '<' :: '!' :: _ => none
  | '?' :: 'P' :: '<' :: rest | '?' :: '<' :: rest =>
    (captureName rest).map fun (n, after) => (.group f (some n), after)
  | ['?'] => none
  | '?' :: rest =>
    (setFlags f rest).map fun (f', closed, after) =>
      (if closed then .setting f' else .group f' none, after)
  | _ => some (.group f none, cs)

/-- Parse the parts of an expression up to the closing parenthesis of the group they stand in
(`nested`) or its end. `done` holds the shapes of the alternatives read, `parts` the parts of the
current one, each marked when it is a flag setting. The shape of the whole, the state after it
(whose flags the caller restores) and the rest. -/
def sequence : Nat → Bool → State → List Shape → List (Shape × Bool) → List Char →
    Option (Shape × State × List Char)
  | 0, _, _, _, _, _ => none
  | fuel + 1, nested, st, done, parts, cs =>
    let f := st.flags
    let whole := Shape.join (done ++ [Shape.join (parts.map (·.1))])
    let push (s : Shape) (rest : List Char) := sequence fuel nested st done (parts ++ [(s, false)]) rest
    let repeat_ (none_ : Bool) (rest : List Char) :=
      match parts.getLast? with
      | some (s, false) => sequence fuel nested st done (parts.dropLast ++ [(s.repeated none_, false)]) rest
      | _ => none
    match skipSpace f.extended cs with
    | [] => if nested then none else some (whole, st, [])
    | ')' :: rest => if nested then some (whole, st, rest) else none
    | '|' :: rest => sequence fuel nested st (done ++ [Shape.join (parts.map (·.1))]) [] rest
    | '?' :: rest | '*' :: rest | '+' :: rest => repeat_ false (lazy rest)
    | '\x7b' :: rest => do
      let (none_, after) ← count f.extended rest
      repeat_ none_ (lazy (skipSpace f.extended after))
    | '[' :: rest => do
      let (d, after) ← classSet fuel f rest
      push { depth := d } after
    | '(' :: rest => do
      let (o, after) ← opening f (skipSpace f.extended rest)
      match o with
      | .setting f' => sequence fuel nested { st with flags := f' } done (parts ++ [({}, true)]) after
      | .group f' name =>
        if name.any st.names.contains then none else
        let inner : State := { flags := f', names := st.names ++ name.toList }
        let (s, st', after) ← sequence fuel true inner [] [] after
        sequence fuel nested { st' with flags := f } done (parts ++ [(⟨s.depth + 1, s.word⟩, false)]) after
    | '\\' :: rest => do
      let (e, after) ← escape rest
      match e with
      | .literal c byte =>
        if f.unicode then (if f.caseless then none else push {} after)
        else if byte && c.toNat ≥ 0x80 then none else push {} after
      | .perl negated => if f.unicode || negated then none else push {} after
      | .property => none
      | .wordBoundary negated =>
        if f.unicode then push { word := true } after
        else if negated then none else push {} after
      | .anchor => push {} after
    | '.' :: rest => if f.unicode then push {} rest else none
    | '^' :: rest | '$' :: rest => push {} rest
    | _ :: rest => if f.unicode && f.caseless then none else push {} rest

/-- Whether an expression compiles, and if not why. -/
def check (s : String) : Except PatternError Unit :=
  match sequence (2 * s.length + 2) false {} [] [] s.toList with
  | none => .error .malformed
  | some (shape, _, _) =>
    if nestLimit < shape.depth then .error .malformed
    else if shape.word then .error .unicodeWordBoundary
    else .ok ()

end CredentialCache.Pattern
