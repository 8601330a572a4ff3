import Polyglot.Encoding.Labels

/-!
# Writing texts as bytes

A character that an encoding lacks is written as a numeric character reference.
The encodings that nothing can be written in are written as UTF-8.  The encodings
with several bytes to a character have no tables here, so that they lack all but
the first 128 characters.
-/

set_option autoImplicit false

namespace Polyglot

/-- A character as a numeric character reference. -/
def numericReference (c : Char) : Text :=
  '&' :: '#' :: Text.ofNat c.toNat ++ [';']

namespace EncodingScheme

/-- The byte of a character, for the schemes that go byte by byte. -/
def byteOf? (upper : Nat → Option Nat) (c : Char) : Option UInt8 :=
  if c.toNat < 0x80 then some (UInt8.ofNat c.toNat)
  else (upper c.toNat).map fun i => UInt8.ofNat (0x80 + i)

/-- The byte of a character, or the bytes of its reference. -/
def encodeChar (upper : Nat → Option Nat) (c : Char) : Bytes :=
  match byteOf? upper c with
  | some byte => [byte]
  | none => Utf8.encode (numericReference c)

/-- The place of a character among the upper half of a table. -/
def placeOf? (upper : List Nat) (point : Nat) : Option Nat :=
  if point = replacementChar.toNat then none else upper.idxOf? point

/-- The place of one of the private characters that stand for bytes. -/
def privatePlace? (point : Nat) : Option Nat :=
  if 0xF780 ≤ point ∧ point ≤ 0xF7FF then some (point - 0xF780) else none

/-- The bytes that write a text in a scheme. -/
def encode : EncodingScheme → Text → Bytes
  | utf8, text | utf16 _, text | replacement, text => Utf8.encode text
  | singleByte upper, text => text.flatMap (encodeChar (placeOf? upper))
  | userDefined, text => text.flatMap (encodeChar privatePlace?)
  | multiByte, text => text.flatMap (encodeChar fun _ => none)

end EncodingScheme

namespace Encoding

/-- The bytes that write a text in the encoding of a label, or in UTF-8 if the
label names nothing. -/
def encodeLabeled (label : Text) (text : Text) : Bytes :=
  match ofLabel? label with
  | some encoding => encoding.scheme.encode text
  | none => Utf8.encode text

end Encoding

end Polyglot
