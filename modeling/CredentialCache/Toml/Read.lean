import CredentialCache.Toml.Document
/-!
# Reading TOML

A reader for TOML documents: comments, bare and quoted (dotted) keys, the four kinds of string,
integers in four bases, floats, booleans, date-times, arrays, inline tables, table headers and
arrays of tables. A failure names the character offset where reading stopped and what was
expected there, in the words TOML tooling uses ("invalid array", "expected `.`, `=`", ...).

Every loop and every nested value spends one unit of fuel, and the fuel is the length of the
text, so reading always ends.
-/

namespace CredentialCache.Toml

/-- A reader: from the text and an offset, a result and the next offset, or a failure. -/
def Reader (α : Type) : Type := Array Char → Nat → Except Failure (α × Nat)

instance : Monad Reader where
  pure a := fun _ p => .ok (a, p)
  bind m f := fun cs p =>
    match m cs p with
    | .ok (a, p') => f a cs p'
    | .error e => .error e

namespace Reader

variable {α : Type}

def peek : Reader (Option Char) := fun cs p => .ok (cs[p]?, p)

def peekAt (k : Nat) : Reader (Option Char) := fun cs p => .ok (cs[p + k]?, p)

def offset : Reader Nat := fun _ p => .ok (p, p)

def seek (q : Nat) : Reader Unit := fun _ _ => .ok ((), q)

def bump : Reader Unit := fun _ p => .ok ((), p + 1)

def fail (msg : String) (soft : Bool := false) : Reader α := fun _ p =>
  .error { offset := p, message := msg, soft }

def failAt (q : Nat) (msg : String) : Reader α := fun _ _ => .error { offset := q, message := msg }

/-- Run a reader; a soft failure goes back to where it started and gives nothing. -/
def attempt (r : Reader α) : Reader (Option α) := fun cs p =>
  match r cs p with
  | .ok (a, p') => .ok (some a, p')
  | .error e => if e.soft then .ok (none, p) else .error e

/-- Run a reader and turn a soft failure into a hard one. -/
def commit (r : Reader α) : Reader α := fun cs p =>
  match r cs p with
  | .ok x => .ok x
  | .error e => .error { e with soft := false }

def sees (s : String) : Reader Bool := fun cs p =>
  .ok ((s.toList.zipIdx.all fun (c, i) => cs[p + i]? == some c), p)

def skipWhile (ok : Char → Bool) : Nat → Reader Unit
  | 0 => pure ()
  | n + 1 => do
    match ← peek with
    | some c => if ok c then do bump; skipWhile ok n else pure ()
    | none => pure ()

def takeWhile (ok : Char → Bool) : Nat → Reader String
  | 0 => pure ""
  | n + 1 => do
    match ← peek with
    | some c => if ok c then do bump; return c.toString ++ (← takeWhile ok n) else pure ""
    | none => pure ""

/-- The text's length, the fuel of every loop. -/
def fuel : Reader Nat := fun cs p => .ok (cs.size + 1, p)

end Reader

open Reader

def isBlank (c : Char) : Bool := c == ' ' || c == '\t'

/-- A character allowed in a comment: tab, printable ASCII, or any non-ASCII character. -/
def isCommentChar (c : Char) : Bool := c == '\t' || (' ' ≤ c && c ≤ '~') || c.toNat ≥ 0x80

def isBareKeyChar (c : Char) : Bool := c.isAlphanum || c == '_' || c == '-'

def isBasicChar (c : Char) : Bool :=
  c == '\t' || c == ' ' || c == '!' || ('#' ≤ c && c ≤ '[') || (']' ≤ c && c ≤ '~') || c.toNat ≥ 0x80

def isLiteralChar (c : Char) : Bool :=
  c == '\t' || (' ' ≤ c && c ≤ '&') || ('(' ≤ c && c ≤ '~') || c.toNat ≥ 0x80

def hexValue (c : Char) : Option Nat :=
  if c.isDigit then some (c.toNat - '0'.toNat)
  else if 'a' ≤ c && c ≤ 'f' then some (c.toNat - 'a'.toNat + 10)
  else if 'A' ≤ c && c ≤ 'F' then some (c.toNat - 'A'.toNat + 10)
  else none

def badEscape : String :=
  "invalid escape sequence\nexpected `b`, `f`, `n`, `r`, `t`, `u`, `U`, `\\`, `\"`"

def badValueStart : String := "invalid string\nexpected `\"`, `'`"

def ws : Reader Unit := do skipWhile isBlank (← fuel)

def comment : Reader Unit := do
  bump
  skipWhile isCommentChar (← fuel)

def newline? : Reader Bool := do
  match ← peek with
  | some '\n' => do bump; pure true
  | some '\r' => if (← peekAt 1) == some '\n' then do bump; bump; pure true else pure false
  | _ => pure false

def wsNewlines : Nat → Reader Unit
  | 0 => pure ()
  | n + 1 => do
    match ← peek with
    | some ' ' | some '\t' => do bump; wsNewlines n
    | some '\n' | some '\r' => if ← newline? then wsNewlines n else pure ()
    | _ => pure ()

def wsCommentNewline : Nat → Reader Unit
  | 0 => pure ()
  | n + 1 => do
    match ← peek with
    | some ' ' | some '\t' => do bump; wsCommentNewline n
    | some '#' => do comment; wsCommentNewline n
    | some '\n' | some '\r' => if ← newline? then wsCommentNewline n else pure ()
    | _ => pure ()

def lineTrailing (msg : String) : Reader Unit := do
  ws
  if (← peek) == some '#' then comment
  match ← peek with
  | none => pure ()
  | _ => if ← newline? then pure () else fail msg

/-- `n` hexadecimal digits after `\u` or `\U`, as a character. Too few digits, or a value that is
no character, fail at the first digit. -/
def hexEscape (n : Nat) (label : String) : Reader Char := do
  let start ← offset
  let digits ← takeWhile (fun c => (hexValue c).isSome) n
  if digits.length != n then failAt start s!"invalid {label}"
  let value := digits.foldl (fun acc c => acc * 16 + (hexValue c).getD 0) 0
  if !(value < 0xD800 || (0xDFFF < value && value < 0x110000)) then
    failAt start s!"invalid {label}\nvalue is out of range"
  pure (Char.ofNat value)

def escape : Reader (Option Char) := do
  match ← peek with
  | none => pure none
  | some c =>
    bump
    match c with
    | 'b' => pure (some '\x08')
    | 'f' => pure (some '\x0c')
    | 'n' => pure (some '\n')
    | 'r' => pure (some '\r')
    | 't' => pure (some '\t')
    | '\\' => pure (some '\\')
    | '"' => pure (some '"')
    | 'u' => some <$> hexEscape 4 "unicode 4-digit hex code"
    | 'U' => some <$> hexEscape 8 "unicode 8-digit hex code"
    | _ => fail badEscape

def basicBody : Nat → Reader String
  | 0 => fail "invalid basic string"
  | n + 1 => do
    match ← peek with
    | some '"' => do bump; pure ""
    | some '\\' =>
      let back ← offset
      bump
      match ← escape with
      | some c => return c.toString ++ (← basicBody n)
      | none => do seek back; fail "invalid basic string"
    | some c =>
      if isBasicChar c then do bump; return c.toString ++ (← basicBody n)
      else fail "invalid basic string"
    | none => fail "invalid basic string"

def literalBody : Nat → Reader String
  | 0 => fail "invalid literal string"
  | n + 1 => do
    match ← peek with
    | some '\'' => do bump; pure ""
    | some c =>
      if isLiteralChar c then do bump; return c.toString ++ (← literalBody n)
      else fail "invalid literal string"
    | none => fail "invalid literal string"

def runOf (q : Char) : Nat → Reader Nat
  | 0 => pure 0
  | n + 1 => do
    if (← peek) == some q then do
      bump
      return 1 + (← runOf q n)
    else pure 0

/-- The body of a multi-line string after its opening delimiter, through the closing one. With
`escapes` it is a basic string (escapes and line-ending backslashes), else a literal one. -/
def multiBody (q : Char) (escapes : Bool) (label : String) : Nat → Reader String
  | 0 => fail s!"invalid {label}"
  | n + 1 => do
    match ← peek with
    | none => fail s!"invalid {label}"
    | some c =>
      if c == q then
        let start ← offset
        let k ← runOf q 5
        if k ≥ 3 then
          if k > 5 then failAt start s!"invalid {label}"
          pure (String.ofList (List.replicate (k - 3) q))
        else return String.ofList (List.replicate k q) ++ (← multiBody q escapes label n)
      else if c == '\n' || c == '\r' then
        if ← newline? then return "\n" ++ (← multiBody q escapes label n)
        else fail s!"invalid {label}"
      else if escapes && c == '\\' then
        let back ← offset
        bump
        ws
        if ← newline? then
          wsNewlines (← fuel)
          multiBody q escapes label n
        else
          seek (back + 1)
          match ← escape with
          | some e => return e.toString ++ (← multiBody q escapes label n)
          | none => do seek back; fail s!"invalid {label}"
      else if (if escapes then isBasicChar c || c == '"' else isLiteralChar c || c == '\'') then do
        bump
        return c.toString ++ (← multiBody q escapes label n)
      else fail s!"invalid {label}"

def stringValue : Reader String := do
  match ← peek with
  | some '"' =>
    if ← sees "\"\"\"" then do
      bump; bump; bump
      let _ ← newline?
      multiBody '"' true "multiline basic string" (← fuel)
    else do bump; basicBody (← fuel)
  | _ =>
    if ← sees "'''" then do
      bump; bump; bump
      let _ ← newline?
      multiBody '\'' false "multiline literal string" (← fuel)
    else do bump; literalBody (← fuel)

def simpleKey : Reader String := do
  match ← peek with
  | some '"' => do bump; basicBody (← fuel)
  | some '\'' => do bump; literalBody (← fuel)
  | _ =>
    let k ← takeWhile isBareKeyChar (← fuel)
    if k.isEmpty then fail "invalid key" true else pure k

def keyRest : Nat → Reader (List String)
  | 0 => pure []
  | n + 1 => do
    if (← peek) == some '.' then
      let back ← offset
      bump
      ws
      match ← attempt simpleKey with
      | some k => do ws; return k :: (← keyRest n)
      | none => do seek back; pure []
    else pure []

def key : Reader (List String) := do
  ws
  let k ← simpleKey
  ws
  return k :: (← keyRest (← fuel))

def digitsAfterFirst (ok : Char → Bool) (label : String) : Nat → Reader String
  | 0 => pure ""
  | n + 1 => do
    match ← peek with
    | some '_' => do
      bump
      match ← peek with
      | some c => if ok c then do bump; return c.toString ++ (← digitsAfterFirst ok label n)
                  else fail s!"invalid {label}\nexpected digit"
      | none => fail s!"invalid {label}\nexpected digit"
    | some c => if ok c then do bump; return c.toString ++ (← digitsAfterFirst ok label n) else pure ""
    | none => pure ""

/-- A decimal integer's text with its sign, without underscores: a leading zero stands alone. -/
def decIntText : Reader String := do
  let sign ← match ← peek with
    | some '+' => do bump; pure ""
    | some '-' => do bump; pure "-"
    | _ => pure ""
  match ← peek with
  | some '0' => do bump; pure (sign ++ "0")
  | some c =>
    if c.isDigit then do
      bump
      return sign ++ c.toString ++ (← digitsAfterFirst Char.isDigit "integer" (← fuel))
    else fail "invalid integer" true
  | none => fail "invalid integer" true

def zeroPrefixable (label : String) : Reader String := do
  match ← peek with
  | some c =>
    if c.isDigit then do bump; return c.toString ++ (← digitsAfterFirst Char.isDigit label (← fuel))
    else fail s!"invalid {label}"
  | none => fail s!"invalid {label}"

/-- A float: an integer part with a fraction, an exponent or both, or a signed `inf` or `nan`.
A soft failure when the text is no float; a decimal too large for a finite number fails at its
start, though negative infinity and a written `inf` are allowed. -/
def floatValue : Reader Binary64 := do
  let start ← offset
  let (negative, signed) ← match ← peek with
    | some '+' => pure (false, true)
    | some '-' => pure (true, true)
    | _ => pure (false, false)
  let skip := if signed then 1 else 0
  if (← peekAt skip) == some 'i' || (← peekAt skip) == some 'n' then
    if signed then bump
    if ← sees "inf" then do bump; bump; bump; return .infinite negative
    if ← sees "nan" then do bump; bump; bump; return .nan
    fail "invalid floating-point number" true
  let intPart ← decIntText
  let frac ← if (← peek) == some '.' then do
      bump
      match ← peek with
      | some c =>
        if c.isDigit then do pure ("." ++ (← zeroPrefixable "floating-point number"))
        else fail "invalid floating-point number\nexpected digit"
      | none => fail "invalid floating-point number\nexpected digit"
    else pure ""
  let exp ← match ← peek with
    | some 'e' | some 'E' => do
      bump
      let s ← match ← peek with
        | some '+' => do bump; pure ""
        | some '-' => do bump; pure "-"
        | _ => pure ""
      pure ("e" ++ s ++ (← zeroPrefixable "floating-point number"))
    | _ => pure ""
  if frac.isEmpty && exp.isEmpty then fail "invalid floating-point number" true
  match Binary64.ofText? (intPart ++ frac ++ exp) with
  | some (.infinite false) | none => failAt start "invalid floating-point number"
  | some x => pure x

def twoDigits : Reader (Option Nat) := do
  match ← peek, ← peekAt 1 with
  | some a, some b =>
    if a.isDigit && b.isDigit then do
      bump; bump
      pure (some ((a.toNat - '0'.toNat) * 10 + (b.toNat - '0'.toNat)))
    else pure none
  | _, _ => pure none

def field (label : String) (lo hi : Nat) : Reader Unit := do
  let start ← offset
  match ← twoDigits with
  | none => failAt start s!"invalid {label}"
  | some d => if d < lo || hi < d then failAt start s!"invalid {label}\nvalue is out of range"

def expectChar (c : Char) (label : String) : Reader Unit := do
  if (← peek) == some c then bump else fail s!"invalid {label}"

/-- A time of day `hh:mm:ss` with an optional fraction. Without an hour up to 23 and a colon it is
no time: nothing is read and the answer is false. After them the rest must follow, failing with
`label`; the second may be 60, for a leap second. -/
def partialTime (label : String) : Reader Bool := do
  let start ← offset
  match ← twoDigits with
  | some h =>
    if h ≤ 23 && (← peek) == some ':' then
      bump
      field label 0 59
      expectChar ':' label
      field label 0 60
      if (← peek) == some '.' && ((← peekAt 1).any Char.isDigit) then
        bump
        skipWhile Char.isDigit (← fuel)
      pure true
    else do
      seek start
      pure false
  | none => pure false

def daysInMonth (year month : Nat) : Nat :=
  if month == 2 then
    if year % 4 == 0 && (year % 100 != 0 || year % 400 == 0) then 29 else 28
  else if month == 4 || month == 6 || month == 9 || month == 11 then 30
  else 31

/-- A date-time, local date, or local time. A soft failure when the text is none of them.

A date is four digits of year and a dash; after them the month (1 to 12), a dash and the day
(up to the length of the month) must follow. A time may follow the date after `T`, `t` or a
space, and an offset (`Z`, or a sign, hours up to 23 and minutes) the time; a time that does not
start leaves the date alone. -/
def datetimeValue : Reader String := do
  let start ← offset
  let year ← takeWhile Char.isDigit 4
  if year.length == 4 && (← peek) == some '-' then
    bump
    let monthStart ← offset
    let month ← match ← twoDigits with
      | none => failAt monthStart "invalid date-time"
      | some m => pure m
    if month < 1 || 12 < month then failAt monthStart "invalid date-time\nvalue is out of range"
    expectChar '-' "date-time"
    let dayStart ← offset
    let day ← match ← twoDigits with
      | none => failAt dayStart "invalid date-time"
      | some d => pure d
    if day < 1 || daysInMonth year.toNat! month < day then
      failAt dayStart "invalid date-time\nvalue is out of range"
    let back ← offset
    match ← peek with
    | some 'T' | some 't' | some ' ' =>
      bump
      if ← partialTime "date-time" then
        match ← peek with
        | some 'Z' | some 'z' => bump
        | some '+' | some '-' =>
          bump
          field "time offset" 0 23
          expectChar ':' "time offset"
          field "time offset" 0 59
        | _ => pure ()
      else seek back
    | _ => pure ()
  else
    seek start
    if !(← partialTime "time") then fail "invalid date-time" true
  let stop ← offset
  fun cs p => .ok (String.ofList ((cs.extract start stop).toList), p)

def radixValue (base : Nat) (label : String) : Reader Int := do
  let start ← offset
  bump; bump
  let ok (c : Char) : Bool := match hexValue c with
    | some v => decide (v < base)
    | none => false
  match ← peek with
  | some c =>
    if ok c then do
      bump
      let rest ← digitsAfterFirst ok label (← fuel)
      let text := c.toString ++ rest
      let v := text.foldl (fun acc d => acc * base + (hexValue d).getD 0) 0
      if v < Nat.pow 2 63 then pure (Int.ofNat v) else failAt start "number too large to fit in target type"
    else fail s!"invalid {label}"
  | none => fail s!"invalid {label}"

/-- A number or date-time: date-times first, then floats, then integers. An integer out of the
signed 64-bit range fails at its start. -/
def numberValue : Reader Value := do
  let start ← offset
  if let some t ← attempt datetimeValue then return .datetime t
  if let some f ← attempt floatValue then return .float f
  if (← sees "0x") then return .integer (← radixValue 16 "hexadecimal integer")
  if (← sees "0o") then return .integer (← radixValue 8 "octal integer")
  if (← sees "0b") then return .integer (← radixValue 2 "binary integer")
  let text ← decIntText
  match text.toInt? with
  | some n =>
    if n < -Int.pow 2 63 then failAt start "number too small to fit in target type"
    else if n ≥ Int.pow 2 63 then failAt start "number too large to fit in target type"
    else pure (.integer n)
  | none => fail "invalid integer"

def wordValue : Reader Value := do
  if ← sees "true" then do bump; bump; bump; bump; return .boolean true
  if ← sees "false" then do bump; bump; bump; bump; bump; return .boolean false
  if ← sees "inf" then do bump; bump; bump; return .float (.infinite false)
  if ← sees "nan" then do bump; bump; bump; return .float .nan
  fail badValueStart true

mutual

/-- A value; a soft failure when nothing that starts a value stands here. -/
def value : Nat → Reader Value
  | 0 => fail "recursion limit exceeded"
  | n + 1 => do
    match ← peek with
    | some '"' | some '\'' => return .string (← stringValue)
    | some '[' => array n
    | some '\x7b' => inlineTable n
    | some '_' => fail "invalid integer\nexpected leading digit" true
    | some '.' => fail "invalid floating-point number\nexpected leading digit" true
    | some c =>
      if c == '+' || c == '-' || c.isDigit then numberValue
      else if c == 't' || c == 'f' || c == 'i' || c == 'n' then wordValue
      else fail badValueStart true
    | none => fail "" true

def array : Nat → Reader Value
  | 0 => fail "recursion limit exceeded"
  | n + 1 => do
    bump
    let items ← arrayItems n (← fuel)
    wsCommentNewline (← fuel)
    if (← peek) == some ']' then do bump; return .array items
    fail "invalid array\nexpected `]`"

def arrayItems (depth : Nat) : Nat → Reader (List Value)
  | 0 => pure []
  | n + 1 => do
    let back ← offset
    wsCommentNewline (← fuel)
    match ← attempt (value depth) with
    | none => do seek back; pure []
    | some v =>
      wsCommentNewline (← fuel)
      if (← peek) == some ',' then do
        bump
        return v :: (← arrayItems depth n)
      else pure [v]

def inlineTable : Nat → Reader Value
  | 0 => fail "recursion limit exceeded"
  | n + 1 => do
    bump
    let start ← offset
    let pairs ← inlinePairs n (← fuel)
    ws
    if (← peek) != some '\x7d' then fail "invalid inline table\nexpected `\x7d`"
    bump
    let built := pairs.foldlM (fun (b : Builder) (path, v) =>
      b.addPair path.dropLast (path.getLast?.getD "") v false) {}
    match built with
    | .ok b => pure b.finish
    | .error e => failAt start e.message

def inlinePairs (depth : Nat) : Nat → Reader (List (List String × Value))
  | 0 => pure []
  | n + 1 => do
    match ← attempt key with
    | none => pure []
    | some path =>
      if (← peek) != some '=' then fail "expected `.`, `=`"
      bump
      ws
      let v ← commit (value depth)
      ws
      if (← peek) == some ',' then
        let back ← offset
        bump
        match ← attempt (inlinePairs depth n) with
        | some [] => do seek back; pure [(path, v)]
        | some more => pure ((path, v) :: more)
        | none => do seek back; pure [(path, v)]
      else pure [(path, v)]

end

def keyValue (b : Builder) : Reader Builder := do
  let start ← offset
  let path ← commit key
  if (← peek) != some '=' then fail "expected `.`, `=`"
  bump
  ws
  let v ← commit (value (← fuel))
  lineTrailing "expected newline, `#`"
  match b.addPair path.dropLast (path.getLast?.getD "") v with
  | .ok b' => pure b'
  | .error e => failAt start e.message

def header (b : Builder) : Reader Builder := do
  let start ← offset
  let isArray := (← peekAt 1) == some '['
  bump
  if isArray then bump
  let path ← commit key
  let close := if isArray then "]]" else "]"
  if ← sees close then
    for _ in [0:close.length] do bump
  else fail s!"invalid table header\nexpected `.`, `{close}`"
  lineTrailing "invalid table header\nexpected newline, `#`"
  match (if isArray then b.openArrayTable path else b.openTable path) with
  | .ok b' => pure b'
  | .error e => failAt start ("invalid table header\n" ++ e.message)

def lines (b : Builder) : Nat → Reader Builder
  | 0 => pure b
  | n + 1 => do
    ws
    match ← peek with
    | none => pure b
    | some '#' => do
      comment
      if (← peek).isSome && !(← newline?) then fail ""
      lines b n
    | some '\n' | some '\r' => do
      if !(← newline?) then fail ""
      lines b n
    | some '[' => do lines (← header b) n
    | some _ => do lines (← keyValue b) n

/-- Read a TOML document into its root table. -/
def parse (src : String) : Except Failure Value :=
  let cs := src.toList.toArray
  let start := if cs[0]? == some '﻿' then 1 else 0
  match (lines {} (cs.size + 1)) cs start with
  | .ok (b, _) => .ok b.finish
  | .error e => .error e

end CredentialCache.Toml
