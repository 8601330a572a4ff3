import Polyglot.Host.Percent

/-!
# Query parameters

The query of a location is a list of parameters, each a name and a value, joined
by ampersands.  In the written form a plus sign stands for a space and all but a
few characters are escaped.
-/

set_option autoImplicit false

namespace Polyglot.Query

/-- The parameters of a query, names and values decoded. -/
abbrev Parameters : Type := List (Text × Text)

/-! ## Written form -/

/-- A name or value with plus signs for spaces and escapes. -/
def decodePart (text : Text) : Text :=
  Percent.decodeLossy (text.map fun c => if c = '+' then ' ' else c)

/-- The characters that stand for themselves. -/
def isPlain (c : Char) : Bool :=
  c.isAlphanum || c == '*' || c == '-' || c == '.' || c == '_'

/-- A byte of a name or value. -/
def encodeByte (byte : UInt8) : Text :=
  if byte = 0x20 then ['+']
  else if isPlain (Char.ofNat byte.toNat) then [Char.ofNat byte.toNat]
  else Percent.escape byte

/-- A name or value in the written form. -/
def encodePart (text : Text) : Text :=
  (Utf8.encode text).flatMap encodeByte

/-- The parameter that a piece of a query writes. -/
def readParameter (piece : Text) : Text × Text :=
  match Text.cut? '=' piece with
  | some (name, value) => (decodePart name, decodePart value)
  | none => (decodePart piece, [])

/-- The parameters that a query writes; empty pieces write none. -/
def read (query : Text) : Parameters :=
  ((Text.pieces '&' query).filter fun piece => !piece.isEmpty).map readParameter

/-- The query that writes parameters. -/
def write (parameters : Parameters) : Text :=
  Text.joined ['&'] (parameters.map fun (name, value) => encodePart name ++ '=' :: encodePart value)

/-! ## Looking up and setting -/

/-- The value of the first parameter of a name. -/
def get? (parameters : Parameters) (name : Text) : Option Text :=
  parameters.lookup name

/-- Parameters with one of them set: the first of that name gets the value, the
others of that name go, and if there is none it comes last. -/
def set (parameters : Parameters) (name value : Text) : Parameters :=
  match parameters with
  | [] => [(name, value)]
  | (n, v) :: rest =>
    if n = name then (name, value) :: rest.filter fun parameter => parameter.1 != name
    else (n, v) :: set rest name value

end Polyglot.Query
