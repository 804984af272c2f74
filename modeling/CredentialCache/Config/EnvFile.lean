import CredentialCache.Text.Blank
import CredentialCache.Text.Unicode
/-!
# Environment files

An environment file sets variables, one `NAME=value` per line, before the settings are read. A
variable that is already set keeps its value. Lines are read in order until the first one that
cannot be read; the variables of the lines before it stay set.

- A byte order mark at the start of the file is passed over.
- A line may start with `export `. Blank lines and lines starting with `#` say nothing. White
  space at the end of a line is dropped.
- A name starts with an ASCII letter or `_` and goes on with ASCII letters, digits, `_` and `.`.
- In a value, `'…'` keeps its text as it is, `"…"` allows the escapes `\\`, `\'`, `\"`, `\$`,
  `\ ` and `\n`, and those escapes may stand outside quotes too. A blank outside quotes ends the
  value: only blanks and a `#` comment may follow it.
- `$NAME` and `${NAME}` stand for the variable's value: first the environment's, else a value
  read earlier from the file, else nothing. A bare name is a run of letters and digits in the
  Unicode sense, and so is the name in braces but for what else it holds up to the brace. The
  character that ends a bare name is kept as it is, even a quote.
- A quote left open carries the value over the following lines; while lines are joined, a
  backslash inside quotes hides the character after it.
-/

namespace CredentialCache

abbrev Environment := List (String × String)

namespace EnvFile

inductive LineState
  | complete
  | blank
  | escape
  | weak
  | weakEscape
  | strong
  | strongEscape
deriving DecidableEq, Repr

/-- The state after a character, or the position's comment start: `none` when the character
starts a comment. -/
def LineState.step : LineState → Char → Option LineState
  | .blank, c =>
    match c with
    | '#' => none
    | '\\' => some .escape
    | '"' => some .weak
    | '\'' => some .strong
    | _ => some .complete
  | .escape, _ => some .complete
  | .complete, c =>
    if isWhiteSpace c && c != '\n' && c != '\r' then some .blank
    else match c with
      | '\\' => some .escape
      | '"' => some .weak
      | '\'' => some .strong
      | _ => some .complete
  | .weak, c =>
    match c with
    | '\\' => some .weakEscape
    | '"' => some .complete
    | _ => some .weak
  | .weakEscape, _ => some .weak
  | .strong, c =>
    match c with
    | '\\' => some .strongEscape
    | '\'' => some .complete
    | _ => some .strong
  | .strongEscape, _ => some .strong

def LineState.run : LineState → List Char → Nat → Sum Nat LineState
  | s, [], _ => .inr s
  | s, c :: cs, i =>
    match s.step c with
    | none => .inl i
    | some s' => LineState.run s' cs (i + 1)

def physicalLine (cs : List Char) : List Char × List Char :=
  match cs.span (· != '\n') with
  | (l, '\n' :: rest) => (l ++ ['\n'], rest)
  | (l, rest) => (l, rest)

def dropBreak (cs : List Char) : List Char :=
  match cs.reverse with
  | '\n' :: '\r' :: r => r.reverse
  | '\n' :: r => r.reverse
  | _ => cs

/-- The next logical line: physical lines joined while a quote is open. The answer is the line
(an error if the text ends inside it) and the rest, or nothing at the end of the text. -/
def logicalLine : Nat → List Char → LineState → List Char → Option (Except Unit (List Char) × List Char)
  | 0, _, _, _ => none
  | fuel + 1, buf, st, cs =>
    let (line, rest) := physicalLine cs
    if line.isEmpty then
      if st == .complete && buf.isEmpty then none else some (.error (), [])
    else
      let buf' := buf ++ line
      if (buf'.dropWhile isWhiteSpace).head? == some '#' then some (.ok [], rest)
      else
        match st.run line 0 with
        | .inl n => some (.ok (buf ++ line.take n), rest)
        | .inr .complete => some (.ok (dropBreak buf'), rest)
        | .inr st' => logicalLine fuel buf' st' rest

def logicalLines (fuel : Nat) (cs : List Char) : List (List Char) × Bool :=
  match fuel with
  | 0 => ([], false)
  | fuel + 1 =>
    match logicalLine (cs.length + 1) [] .complete cs with
    | none => ([], false)
    | some (.error (), _) => ([], true)
    | some (.ok l, rest) =>
      let (ls, bad) := logicalLines fuel rest
      (l :: ls, bad)

def lookupValue (env : Environment) (read : List (String × Option String)) (name : String) : String :=
  match env.lookup name with
  | some v => v
  | none => ((read.lookup name).getD none).getD ""

inductive Substitution
  | off
  | bare
  | braced
deriving DecidableEq, Repr

structure ValueState where
  out : String := ""
  strong : Bool := false
  weak : Bool := false
  escaped : Bool := false
  ending : Bool := false
  done : Bool := false
  subst : Substitution := .off
  name : String := ""
deriving Repr

/-- Read one character of a value, or fail. `value` gives a name's value for substitution. -/
def ValueState.step (value : String → String) (s : ValueState) (c : Char) : Option ValueState :=
  if s.done then some s
  else if s.ending then
    if c == ' ' || c == '\t' then some s
    else if c == '#' then some { s with done := true }
    else none
  else if s.escaped then
    match c with
    | '\\' | '\'' | '"' | '$' | ' ' => some { s with out := s.out.push c, escaped := false }
    | 'n' => some { s with out := s.out.push '\n', escaped := false }
    | _ => none
  else if s.strong then
    if c == '\'' then some { s with strong := false } else some { s with out := s.out.push c }
  else if s.subst != .off then
    if isUnicodeAlnum c then some { s with name := s.name.push c }
    else if s.subst == .bare then
      if c == '\x7b' && s.name.isEmpty then some { s with subst := .braced }
      else
        let out := s.out ++ value s.name
        if c == '$' then some { s with out, name := "" }
        else some { s with out := out.push c, name := "", subst := .off }
    else if c == '\x7d' then some { s with out := s.out ++ value s.name, name := "", subst := .off }
    else some { s with name := s.name.push c }
  else if c == '$' then some { s with subst := .bare }
  else if s.weak then
    if c == '"' then some { s with weak := false }
    else if c == '\\' then some { s with escaped := true }
    else some { s with out := s.out.push c }
  else if c == '\'' then some { s with strong := true }
  else if c == '"' then some { s with weak := true }
  else if c == '\\' then some { s with escaped := true }
  else if c == ' ' || c == '\t' then some { s with ending := true }
  else some { s with out := s.out.push c }

def parseValue (value : String → String) (cs : List Char) : Option String := do
  let s ← cs.foldlM (ValueState.step value) {}
  if s.subst == .braced || s.strong || s.weak then none
  else some (s.out ++ value s.name)

def isNameStart (c : Char) : Bool := (c.isAlpha && c.toNat < 128) || c == '_'

def isNameChar (c : Char) : Bool := (c.isAlphanum && c.toNat < 128) || c == '_' || c == '.'

def name? (cs : List Char) : Option (String × List Char) :=
  match cs with
  | c :: _ => if isNameStart c then some (String.ofList (cs.takeWhile isNameChar), cs.dropWhile isNameChar) else none
  | [] => none

inductive LineReading
  | nothing
  | variable (name : String) (value : Option String)
  | malformed

/-- Read a logical line. A value that is empty or only a comment is recorded as absent for later
substitution, and sets the variable to the empty text. -/
def readLine (value : String → String) (line : List Char) : LineReading :=
  let line := ((line.reverse.dropWhile isWhiteSpace).reverse).dropWhile isWhiteSpace
  if line.isEmpty || line.head? == some '#' then .nothing
  else
    match name? line with
    | none => .malformed
    | some (key, rest) =>
      let rest := rest.dropWhile isWhiteSpace
      let assigned : Option (String × List Char) :=
        match rest with
        | '=' :: r => some (key, r)
        | _ =>
          if key == "export" then
            match name? rest with
            | some (k, r) =>
              match r.dropWhile isWhiteSpace with
              | '=' :: r' => some (k, r')
              | _ => none
            | none => none
          else none
      match assigned with
      | none => .malformed
      | some (k, r) =>
        let r := r.dropWhile isWhiteSpace
        if r.isEmpty || r.head? == some '#' then .variable k none
        else match parseValue value r with
          | some v => .variable k (some v)
          | none => .malformed

/-- Apply the lines in order to the environment, keeping what is already set, until a line
cannot be read. `read` holds the values read so far, for substitution. -/
def applyLines (env : Environment) (read : List (String × Option String)) : List (List Char) → Environment
  | [] => env
  | l :: ls =>
    match readLine (lookupValue env read) l with
    | .nothing => applyLines env read ls
    | .malformed => env
    | .variable k v =>
      let env' := if (env.lookup k).isSome then env else env ++ [(k, v.getD "")]
      applyLines env' ((k, v) :: read) ls

/-- The environment after an environment file: its variables added where not already set, up to
the first line that cannot be read. -/
def apply (env : Environment) (text : String) : Environment :=
  let cs := match text.toList with
    | '\uFEFF' :: rest => rest
    | cs => cs
  applyLines env [] (logicalLines (cs.length + 1) cs).1

end EnvFile

end CredentialCache
