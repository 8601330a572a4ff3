import Polyglot.Text.Basic

/-!
# UTF-8

Texts as bytes and bytes as texts.  `Utf8.decodeUnits` runs a small machine over
the bytes; it yields one unit for each character and one unit without a
character for each stretch of bytes that is the beginning of no character.
`Utf8.decode?` accepts only bytes without such a stretch, `Utf8.decodeLossy`
writes a replacement character for it.
-/

set_option autoImplicit false

namespace Polyglot

/-- A sequence of bytes. -/
abbrev Bytes : Type := List UInt8

/-- What stands for bytes that are no character. -/
def replacementChar : Char := '\uFFFD'

namespace Utf8

/-- The bytes of a text. -/
def encode (text : Text) : Bytes :=
  text.flatMap String.utf8EncodeChar

/-- Where the machine is. -/
inductive State where
  /-- Between two characters. -/
  | between
  /-- Inside a character: how many bytes are missing, the least and the greatest
  that the next one may be, and the number read so far. -/
  | inside (missing : Nat) (least greatest : UInt8) (value : Nat)
  deriving DecidableEq, Repr

/-- The first byte of a character. -/
def start (byte : UInt8) : List (Option Char) × State :=
  if byte < 0x80 then ([some (Char.ofNat byte.toNat)], .between)
  else if byte < 0xC2 then ([none], .between)
  else if byte < 0xE0 then ([], .inside 1 0x80 0xBF (byte.toNat - 0xC0))
  else if byte < 0xF0 then
    let least := if byte = 0xE0 then 0xA0 else 0x80
    let greatest := if byte = 0xED then 0x9F else 0xBF
    ([], .inside 2 least greatest (byte.toNat - 0xE0))
  else if byte < 0xF5 then
    let least := if byte = 0xF0 then 0x90 else 0x80
    let greatest := if byte = 0xF4 then 0x8F else 0xBF
    ([], .inside 3 least greatest (byte.toNat - 0xF0))
  else ([none], .between)

/-- The next byte: what it completes, and where the machine is then.  A byte that
may not continue a character ends it and is looked at again. -/
def step : State → UInt8 → List (Option Char) × State
  | .between, byte => start byte
  | .inside missing least greatest value, byte =>
    if least ≤ byte ∧ byte ≤ greatest then
      let value := value * 64 + (byte.toNat - 0x80)
      if missing ≤ 1 then ([some (Char.ofNat value)], .between)
      else ([], .inside (missing - 1) 0x80 0xBF value)
    else
      let (units, state) := start byte
      (none :: units, state)

/-- The units of bytes that are read from some state on. -/
def unitsFrom : State → Bytes → List (Option Char)
  | .between, [] => []
  | .inside _ _ _ _, [] => [none]
  | state, byte :: rest =>
    let (units, next) := step state byte
    units ++ unitsFrom next rest

/-- The characters that bytes write, and a unit without one for each stretch that
writes none. -/
def decodeUnits (bytes : Bytes) : List (Option Char) :=
  unitsFrom .between bytes

/-- The text that bytes write, if they write one throughout. -/
def decode? (bytes : Bytes) : Option Text :=
  (decodeUnits bytes).mapM id

/-- The text that bytes write, with a replacement character for each stretch that
writes none. -/
def decodeLossy (bytes : Bytes) : Text :=
  (decodeUnits bytes).map fun unit => unit.getD replacementChar

end Utf8

end Polyglot
