import CredentialCache.Number.Binary64
/-!
# TOML values and parse failures

The values a TOML document holds, and the failure a reader reports: a character offset and a
message. A failure is rendered the way TOML tooling shows it: the line and column counted from
one, the offending line with carets under the offending character, one per byte of its UTF-8
encoding, then the message.

Positions are worked out on the UTF-8 bytes of the text. The column counts the characters of the
line before the offending one when that one is ASCII, and the bytes before it otherwise; at the
end of the text it counts from the last character, so that a failure after a final line break is
shown on the line that break ends.
-/

namespace CredentialCache.Toml

/-- A TOML value. Date-times keep their written text. -/
inductive Value
  | string (s : String)
  | integer (n : Int)
  | float (x : Binary64)
  | boolean (b : Bool)
  | datetime (text : String)
  | array (items : List Value)
  | table (entries : List (String × Value))
deriving Repr, Inhabited

def Value.typeName : Value → String
  | .string _ => "string"
  | .integer _ => "integer"
  | .float _ => "float"
  | .boolean _ => "boolean"
  | .datetime _ => "datetime"
  | .array _ => "array"
  | .table _ => "inline table"

/-- Why reading stopped: where, the message, and whether an enclosing alternative may still be
tried (a soft failure) or reading must stop (a hard one). -/
structure Failure where
  offset : Nat
  message : String
  soft : Bool := false
deriving Repr, Inhabited

def byteLength (cs : List Char) : Nat := cs.foldl (fun n c => n + c.utf8Size) 0

/-- The zero-based line and column of the character at an offset (an offset at the end stands
after the last character). -/
def position (cs : List Char) (offset : Nat) : Nat × Nat :=
  if cs.isEmpty then (0, offset) else
  let n := cs.length
  let safe := min offset (n - 1)
  let before := cs.take safe
  let lineStart := before.length - (before.reverse.takeWhile (· != '\n')).length
  let line := ((before.take lineStart).filter (· == '\n')).length
  let column :=
    match cs[offset]? with
    | some c => if c.utf8Size == 1 then offset - lineStart else byteLength ((cs.take offset).drop lineStart)
    | none => n - lineStart
  (line, column)

def lineText (src : String) (line : Nat) : String := ((src.splitOn "\n")[line]?).getD ""

def Failure.render (src : String) (f : Failure) : String :=
  let cs := src.toList
  let (line, column) := position cs f.offset
  let lineNo := toString (line + 1)
  let pad := "".pushn ' ' (lineNo.length + 1)
  let content := lineText src line
  let width := min ((cs[f.offset]?.map Char.utf8Size).getD 0) (content.utf8ByteSize - column)
  s!"TOML parse error at line {lineNo}, column {column + 1}\n" ++ pad ++ "|\n" ++
    lineNo ++ " | " ++ content ++ "\n" ++
    pad ++ "|" ++ "".pushn ' ' (column + 1) ++ "^" ++ "".pushn '^' (width - 1) ++ "\n" ++
    f.message ++ "\n"

end CredentialCache.Toml
