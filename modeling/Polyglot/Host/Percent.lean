import Polyglot.Text.Utf8

/-!
# Percent encoding

A byte may be written as a percent sign with two hexadecimal digits.  Decoding
keeps a percent sign that is not followed by two digits.
-/

set_option autoImplicit false

namespace Polyglot.Percent

/-- A hexadecimal digit in capitals. -/
def hexDigit (n : Nat) : Char :=
  if n < 10 then Char.ofNat ('0'.toNat + n) else Char.ofNat ('A'.toNat + (n - 10))

/-- A byte as a percent sign and two digits. -/
def escape (byte : UInt8) : Text :=
  ['%', hexDigit (byte.toNat / 16), hexDigit (byte.toNat % 16)]

/-- The value of the hexadecimal digit that a byte writes. -/
def byteDigit? (byte : UInt8) : Option Nat :=
  Text.hexDigitValue? (Char.ofNat byte.toNat)

/-- The bytes that bytes with escapes stand for. -/
def unescape : Bytes → Bytes
  | [] => []
  | [byte] => [byte]
  | [first, second] => [first, second]
  | byte :: high :: low :: rest =>
    if byte = 0x25 then
      match byteDigit? high, byteDigit? low with
      | some h, some l => UInt8.ofNat (h * 16 + l) :: unescape rest
      | _, _ => byte :: unescape (high :: low :: rest)
    else byte :: unescape (high :: low :: rest)

/-- The text that a text with escapes stands for. -/
def decodeLossy (text : Text) : Text :=
  Utf8.decodeLossy (unescape (Utf8.encode text))

/-- A text in which the characters that must not stand as they are, and all that
are not ASCII, are escaped. -/
def encode (mustEscape : Char → Bool) (text : Text) : Text :=
  text.flatMap fun c =>
    if 0x7F ≤ c.toNat || c.toNat < 0x20 || mustEscape c then (Utf8.encode [c]).flatMap escape
    else [c]

end Polyglot.Percent
