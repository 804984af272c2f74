/-!
# Blank text

The characters with the Unicode White_Space property: the ASCII controls from tab to carriage
return, the space, next line, no-break space, the Ogham space mark, the spaces from en quad to
hair space, the line and paragraph separators, the narrow no-break space, the medium mathematical
space and the ideographic space. The zero-width space is not among them. A text is blank when it
is made of such characters only, which is when trimming them from both ends leaves nothing.
-/

namespace CredentialCache

/-- Whether a character has the Unicode White_Space property. -/
def isWhiteSpace (c : Char) : Bool :=
  let n := c.toNat
  (0x09 ≤ n && n ≤ 0x0D) || n == 0x20 || n == 0x85 || n == 0xA0 || n == 0x1680 ||
    (0x2000 ≤ n && n ≤ 0x200A) || n == 0x2028 || n == 0x2029 || n == 0x202F || n == 0x205F ||
    n == 0x3000

def isBlank (s : String) : Bool := s.all isWhiteSpace

def trimWhiteList (cs : List Char) : List Char :=
  ((cs.dropWhile isWhiteSpace).reverse.dropWhile isWhiteSpace).reverse

def trimWhite (s : String) : String := String.ofList (trimWhiteList s.toList)

def trimWhiteEnd (s : String) : String := String.ofList (s.toList.reverse.dropWhile isWhiteSpace).reverse

end CredentialCache
