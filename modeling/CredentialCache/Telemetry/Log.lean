import CredentialCache.Text.Quote
/-!
# Log records

A log record has a level, a target naming the part of the program that wrote it, a message and
named fields. Records are written one per line, either as text (time, level, target, message,
then `name=value` for each field) or as a JSON object with the time, the level, the fields and the
target. A field's value is written by its kind: a number as digits, a shown value as it is, and a
plain string quoted in text and as a JSON string in JSON. In text the message has the control
characters that steer a terminal escaped, so that a message cannot take it over.
-/

namespace CredentialCache

inductive Level
  | error
  | warn
  | info
  | debug
  | trace
deriving DecidableEq, Repr

namespace Level

/-- Verbosity: 1 for errors up to 5 for tracing. A filter that admits verbosity `v` admits every
level whose verbosity is at most `v`. -/
def verbosity : Level → Nat
  | .error => 1
  | .warn => 2
  | .info => 3
  | .debug => 4
  | .trace => 5

def name : Level → String
  | .error => "ERROR"
  | .warn => "WARN"
  | .info => "INFO"
  | .debug => "DEBUG"
  | .trace => "TRACE"

def padded (l : Level) : String := "".pushn ' ' (5 - l.name.length) ++ l.name

end Level

inductive FieldValue
  | shown (text : String)
  | text (text : String)
  | int (n : Int)
deriving DecidableEq, Repr

structure Record where
  level : Level
  target : String
  message : String
  fields : List (String × FieldValue) := []
deriving DecidableEq, Repr

def Record.fieldNames (r : Record) : List String := "message" :: r.fields.map (·.1)

/-- A character of a message in a text line: the escape character, bell, backspace, form feed and
delete as `\x` and two hex digits, the C1 controls as `\u` and hex digits in braces. -/
def messageChar (c : Char) : String :=
  match c with
  | '\x1b' => "\\x1b"
  | '\x07' => "\\x07"
  | '\x08' => "\\x08"
  | '\x0c' => "\\x0c"
  | '\x7f' => "\\x7f"
  | _ => if 0x80 ≤ c.toNat && c.toNat ≤ 0x9F then "\\u\x7b" ++ hexText c.toNat ++ "\x7d" else c.toString

def jsonChar (c : Char) : String :=
  match c with
  | '"' => "\\\""
  | '\\' => "\\\\"
  | '\n' => "\\n"
  | '\r' => "\\r"
  | '\t' => "\\t"
  | '\x08' => "\\b"
  | '\x0c' => "\\f"
  | _ =>
    if c.toNat < 0x20 then "\\u00" ++ (if c.toNat < 16 then "0" else "") ++ hexText c.toNat
    else c.toString

def jsonString (s : String) : String := "\"" ++ String.join (s.toList.map jsonChar) ++ "\""

namespace FieldValue

def toText : FieldValue → String
  | .shown t => t
  | .text t => quoteText t
  | .int n => toString n

def toJson : FieldValue → String
  | .shown t => jsonString t
  | .text t => jsonString t
  | .int n => toString n

end FieldValue

namespace Record

/-- The text line, after the given time: level, target, message, then each field. -/
def toText (r : Record) (time : String) : String :=
  time ++ " " ++ r.level.padded ++ " " ++ r.target ++ ": " ++ String.join (r.message.toList.map messageChar) ++
    String.join (r.fields.map fun (k, v) => " " ++ k ++ "=" ++ v.toText)

/-- The JSON line: time, level, the message and fields as one object, target. -/
def toJson (r : Record) (time : String) : String :=
  let member (k v : String) := jsonString k ++ ":" ++ v
  let fields := member "message" (jsonString r.message) :: r.fields.map fun (k, v) => member k v.toJson
  "\x7b\"timestamp\":" ++ jsonString time ++ ",\"level\":" ++ jsonString r.level.name ++
    ",\"fields\":\x7b" ++ ",".intercalate fields ++ "\x7d,\"target\":" ++ jsonString r.target ++ "\x7d"

end Record

inductive LogFormat
  | text
  | json
deriving DecidableEq, Repr

def LogFormat.line (f : LogFormat) (r : Record) (time : String) : String :=
  match f with
  | .text => r.toText time
  | .json => r.toJson time

end CredentialCache
