import Polyglot.Json.Value

/-!
# Writing JSON values

The compact form: no blanks, only the escapes that JSON demands, integers in
plain digits and fractions in the shortest form that reads back.
-/

set_option autoImplicit false

namespace Polyglot

/-- Plain decimals from five places after the point to sixteen digits before it,
whole numbers with `.0`, larger and smaller ones with a signed power of ten. -/
def JsonNumber.style : DecimalStyle := ⟨-5, 16, ['.', '0'], true⟩

/-- The written form of a number. -/
def JsonNumber.compact : JsonNumber → Text
  | .integer n => (if n < 0 then ['-'] else []) ++ Text.ofNat n.natAbs
  | .fractional negative size => (if negative then ['-'] else []) ++ style.write size

namespace Json

/-- A hexadecimal digit in small letters. -/
def hexDigit (n : Nat) : Char :=
  if n < 10 then Char.ofNat ('0'.toNat + n) else Char.ofNat ('a'.toNat + n - 10)

/-- A character inside a string literal. -/
def quotedChar (c : Char) : Text :=
  if c == '"' then ['\\', '"']
  else if c == '\\' then ['\\', '\\']
  else if c == '\x08' then ['\\', 'b']
  else if c == '\x0c' then ['\\', 'f']
  else if c == '\n' then ['\\', 'n']
  else if c == '\r' then ['\\', 'r']
  else if c == '\t' then ['\\', 't']
  else if c.toNat < 0x20 then
    ['\\', 'u', '0', '0', hexDigit (c.toNat / 16), hexDigit (c.toNat % 16)]
  else [c]

/-- A string literal. -/
def quoted (text : Text) : Text :=
  '"' :: text.flatMap quotedChar ++ ['"']

mutual

/-- The written form of a value. -/
def compact : Json → Text
  | .null => ['n', 'u', 'l', 'l']
  | .bool true => ['t', 'r', 'u', 'e']
  | .bool false => ['f', 'a', 'l', 's', 'e']
  | .number value => value.compact
  | .string text => quoted text
  | .array items => '[' :: Text.joined [','] (compactItems items) ++ [']']
  | .object members => '\x7b' :: Text.joined [','] (compactMembers members) ++ ['\x7d']

/-- The written forms of items. -/
def compactItems : List Json → List Text
  | [] => []
  | item :: rest => compact item :: compactItems rest

/-- The written forms of members. -/
def compactMembers : List (Text × Json) → List Text
  | [] => []
  | (key, value) :: rest => (quoted key ++ ':' :: compact value) :: compactMembers rest

end

end Json

end Polyglot
