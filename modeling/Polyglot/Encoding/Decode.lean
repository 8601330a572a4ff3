import Polyglot.Encoding.Labels

/-!
# Reading texts out of bytes

`Encoding.decode` reads bytes in an encoding, unless they begin with a byte order
mark, which decides by itself and is left out.  Whatever cannot be read becomes
a replacement character.  The encodings with several bytes to a character have no
tables here: of them only the first 128 characters are read.
-/

set_option autoImplicit false

namespace Polyglot

/-! ## Two bytes to a unit -/

namespace Utf16

/-- Whether a unit is the first half of a pair. -/
def isHigh (unit : Nat) : Bool := 0xD800 ≤ unit && unit ≤ 0xDBFF

/-- Whether a unit is the second half of a pair. -/
def isLow (unit : Nat) : Bool := 0xDC00 ≤ unit && unit ≤ 0xDFFF

/-- The units of bytes; a last byte without a partner makes a unit of nothing. -/
def units (bigEndian : Bool) : Bytes → List (Option Nat)
  | [] => []
  | [_] => [none]
  | first :: second :: rest =>
    some (if bigEndian then first.toNat * 256 + second.toNat
      else second.toNat * 256 + first.toNat) :: units bigEndian rest

/-- The text of units, when the first half of a pair may have been read already.
Halves without their partner are replaced, and so is a unit of nothing; where
the bytes end inside both at once they are replaced once. -/
def textOf : Option Nat → List (Option Nat) → Text
  | none, [] => []
  | some _, [] => [replacementChar]
  | _, none :: _ => [replacementChar]
  | none, some unit :: rest =>
    if isHigh unit then textOf (some unit) rest
    else if isLow unit then replacementChar :: textOf none rest
    else Char.ofNat unit :: textOf none rest
  | some high, some unit :: rest =>
    if isLow unit then
      Char.ofNat (0x10000 + (high - 0xD800) * 0x400 + (unit - 0xDC00)) :: textOf none rest
    else if isHigh unit then replacementChar :: textOf (some unit) rest
    else replacementChar :: Char.ofNat unit :: textOf none rest

/-- The text that bytes write. -/
def decode (bigEndian : Bool) (bytes : Bytes) : Text :=
  textOf none (units bigEndian bytes)

end Utf16

/-! ## All schemes -/

namespace EncodingScheme

/-- The character of one byte, for the schemes that go byte by byte. -/
def decodeByte (upper : Nat → Nat) (byte : UInt8) : Char :=
  if byte < 0x80 then Char.ofNat byte.toNat else Char.ofNat (upper (byte.toNat - 0x80))

/-- The text that bytes write in a scheme. -/
def decode : EncodingScheme → Bytes → Text
  | utf8, bytes => Utf8.decodeLossy bytes
  | utf16 bigEndian, bytes => Utf16.decode bigEndian bytes
  | singleByte upper, bytes => bytes.map (decodeByte fun i => upper.getD i replacementChar.toNat)
  | userDefined, bytes => bytes.map (decodeByte (0xF780 + ·))
  | multiByte, bytes => bytes.map (decodeByte fun _ => replacementChar.toNat)
  | replacement, [] => []
  | replacement, _ :: _ => [replacementChar]

end EncodingScheme

namespace Encoding

/-- The scheme that a byte order mark announces, and the bytes after the mark. -/
def afterMark? : Bytes → Option (EncodingScheme × Bytes)
  | 0xEF :: 0xBB :: 0xBF :: rest => some (.utf8, rest)
  | 0xFF :: 0xFE :: rest => some (.utf16 false, rest)
  | 0xFE :: 0xFF :: rest => some (.utf16 true, rest)
  | _ => none

/-- The text that bytes write in an encoding, if they do not announce another. -/
def decode (encoding : Encoding) (bytes : Bytes) : Text :=
  match afterMark? bytes with
  | some (scheme, rest) => scheme.decode rest
  | none => encoding.scheme.decode bytes

/-- The text that bytes write in the encoding of a label.  Bytes under a label
that names nothing are read as UTF-8, with no regard to marks. -/
def decodeLabeled (label : Text) (bytes : Bytes) : Text :=
  match ofLabel? label with
  | some encoding => encoding.decode bytes
  | none => Utf8.decodeLossy bytes

end Encoding

end Polyglot
