import CredentialCache.Text.Unicode
/-!
# Quoted text

Messages about settings quote texts between double quotes. Inside, the quote and the backslash
are escaped, NUL, tab, line feed and carriage return have their short escapes, and a character
that extends the grapheme before it, or is not printable, is written as `\u` and its code point
in lower-case hex between braces. Everything else stands as it is, the single quote included.
-/

namespace CredentialCache

def hexText (n : Nat) : String := String.ofList (Nat.toDigits 16 n)

/-- A character as it stands inside a quoted text. -/
def quoteChar (c : Char) : String :=
  match c with
  | '\x00' => "\\0"
  | '\t' => "\\t"
  | '\r' => "\\r"
  | '\n' => "\\n"
  | '\\' => "\\\\"
  | '"' => "\\\""
  | _ =>
    if isGraphemeExtend c || !isPrintable c then "\\u\x7b" ++ hexText c.toNat ++ "\x7d"
    else c.toString

def quoteText (s : String) : String := "\"" ++ String.join (s.toList.map quoteChar) ++ "\""

end CredentialCache
