import Polyglot.Text.Basic

/-!
# White space

Which characters count as blank, where a line ends, and trimming.  Blank means
the Unicode property White_Space; a line ends at a line feed, a carriage return
or one of the two Unicode separators.
-/

set_option autoImplicit false

namespace Polyglot

/-- The Unicode property White_Space. -/
def isBlank (c : Char) : Bool :=
  let n := c.toNat
  (9 ≤ n && n ≤ 13) || n == 0x20 || n == 0x85 || n == 0xA0 || n == 0x1680
    || (0x2000 ≤ n && n ≤ 0x200A) || n == 0x2028 || n == 0x2029 || n == 0x202F
    || n == 0x205F || n == 0x3000

/-- The white space of ASCII that markup and labels are trimmed of. -/
def isAsciiBlank (c : Char) : Bool :=
  c == ' ' || c == '\t' || c == '\n' || c == '\x0c' || c == '\r'

/-- The characters that end a line. -/
def isLineEnd (c : Char) : Bool :=
  c == '\n' || c == '\r' || c == '\u2028' || c == '\u2029'

namespace Text

/-- A text without the characters of a kind at either end. -/
def trimmed (kind : Char → Bool) (text : Text) : Text :=
  ((text.dropWhile kind).reverse.dropWhile kind).reverse

/-- A text without blanks at its ends. -/
def trim (text : Text) : Text :=
  trimmed isBlank text

/-- A text without blanks at its beginning. -/
def trimStart (text : Text) : Text :=
  text.dropWhile isBlank

end Text

end Polyglot
