import Polyglot.Host.Query
import Polyglot.Text.Blank

/-!
# Locations

A location is an address of the web taken apart.  Reading brings it into its
normal form: scheme and host in small letters, no port that goes without saying,
no dots in the path, and everything escaped that an address cannot hold.  A
location without a path has the path `/`.

Only the schemes of the web are known, `http` and `https`; addresses of files, of
data or of nothing are no locations here.
-/

set_option autoImplicit false

namespace Polyglot

/-- An address of the web. -/
structure Location where
  /-- Whether the connection is a secure one. -/
  secure : Bool
  /-- What stands before the host, with the sign after it. -/
  user : Text
  host : Text
  port? : Option Nat
  /-- The segments of the path. -/
  path : List Text
  query? : Option Text
  fragment? : Option Text
  deriving DecidableEq, Repr

namespace Location

/-- The port that goes without saying. -/
def defaultPort (secure : Bool) : Nat :=
  if secure then 443 else 80

/-- A location as an address. -/
def write (location : Location) : Text :=
  (if location.secure then "https://".toList else "http://".toList)
    ++ location.user ++ location.host
    ++ (match location.port? with
      | some port => ':' :: Text.ofNat port
      | none => [])
    ++ location.path.flatMap ('/' :: ·)
    ++ (match location.query? with
      | some query => '?' :: query
      | none => [])
    ++ (match location.fragment? with
      | some fragment => '#' :: fragment
      | none => [])

/-! ## Reading -/

/-- The characters of a fragment that are escaped. -/
def escapedInFragment (c : Char) : Bool :=
  c == ' ' || c == '"' || c == '<' || c == '>' || c.toNat == 0x60

/-- The characters of a query that are escaped. -/
def escapedInQuery (c : Char) : Bool :=
  c == ' ' || c == '"' || c == '#' || c == '<' || c == '>' || c == '\''

/-- The characters of a path that are escaped. -/
def escapedInPath (c : Char) : Bool :=
  c == ' ' || c == '"' || c == '#' || c == '<' || c == '>' || c == '?' || c.toNat == 0x60
    || c == '\x7b' || c == '\x7d'

/-- Whether a character separates the segments of a path. -/
def isSlash (c : Char) : Bool :=
  c == '/' || c == '\\'

/-- Whether a character ends the host and what belongs to it. -/
def endsAuthority (c : Char) : Bool :=
  isSlash c || c == '?' || c == '#'

/-- The characters that no host can hold. -/
def forbiddenInHost (c : Char) : Bool :=
  c.toNat ≤ 0x20 || 0x7F ≤ c.toNat || c == '#' || c == '%' || c == '/' || c == ':' || c == '<'
    || c == '>' || c == '?' || c == '@' || c == '[' || c == '\\' || c == ']' || c == '^'
    || c == '|'

/-- A text in which a dot written as an escape is a dot. -/
def plainDots (segment : Text) : Text :=
  let lower := Text.asciiLower segment
  match lower with
  | ['.'] | ['%', '2', 'e'] => ['.']
  | ['.', '.'] | ['.', '%', '2', 'e'] | ['%', '2', 'e', '.'] | ['%', '2', 'e', '%', '2', 'e'] =>
    ['.', '.']
  | _ => segment

/-- The segments of a path in its normal form, those before the ones at hand
given last first. -/
def normalPathFrom (before : List Text) : List Text → List Text
  | [] => before.reverse
  | [last] =>
    match plainDots last with
    | ['.'] => (([] : Text) :: before).reverse
    | ['.', '.'] => (([] : Text) :: before.drop 1).reverse
    | _ => (Percent.encode escapedInPath last :: before).reverse
  | segment :: rest =>
    match plainDots segment with
    | ['.'] => normalPathFrom before rest
    | ['.', '.'] => normalPathFrom (before.drop 1) rest
    | _ => normalPathFrom (Percent.encode escapedInPath segment :: before) rest

/-- The segments of a path, which has a slash at its beginning or is empty. -/
def readPath (text : Text) : List Text :=
  normalPathFrom [] (Text.pieces '/' ((text.map fun c => if isSlash c then '/' else c).drop 1))

/-- The port that a text writes: a number below 65536, or none at all. -/
def readPort? (secure : Bool) (text : Text) : Option (Option Nat) :=
  if text.isEmpty then some none
  else if text.all Char.isDigit then
    let port := Text.digitsValue text
    if port ≤ 65535 then some (if port = defaultPort secure then none else some port) else none
  else none

/-- The part of a text up to the last sign that ends the user, and what follows. -/
def splitUser (text : Text) : Text × Text :=
  let host := (text.reverse.takeWhile (· != '@')).reverse
  (text.take (text.length - host.length), host)

/-- The location that an address without its scheme writes. -/
def readAuthority? (secure : Bool) (text : Text) : Option Location := do
  let text := text.dropWhile isSlash
  let authority := text.takeWhile (!endsAuthority ·)
  let rest := text.drop authority.length
  let (user, authority) := splitUser authority
  let (host, portText) := (Text.cut? ':' authority).getD (authority, [])
  let port? ← readPort? secure portText
  let (rest, fragment?) := match Text.cut? '#' rest with
    | some (rest, fragment) => (rest, some (Percent.encode escapedInFragment fragment))
    | none => (rest, none)
  let (path, query?) := match Text.cut? '?' rest with
    | some (path, query) => (path, some (Percent.encode escapedInQuery query))
    | none => (rest, none)
  if host.isEmpty || host.any forbiddenInHost then none
  else some ⟨secure, user, Text.asciiLower host, port?, readPath path, query?, fragment?⟩

/-- Whether a character is left out at the ends of an address. -/
def isTrimmed (c : Char) : Bool :=
  c.toNat ≤ 0x20

/-- The location that an address writes. -/
def read? (address : Text) : Option Location :=
  let text := (Text.trimmed isTrimmed address).filter fun c => !(c == '\t' || c == '\n' || c == '\r')
  match Text.cut? ':' text with
  | none => none
  | some (scheme, rest) =>
    if Text.asciiLower scheme = "http".toList then readAuthority? false rest
    else if Text.asciiLower scheme = "https".toList then readAuthority? true rest
    else none

/-! ## Query parameters -/

/-- The location that is used where none is given. -/
def localhost : Location :=
  ⟨false, [], "localhost".toList, none, [[]], none, none⟩

/-- The parameters of a location. -/
def parameters (location : Location) : Query.Parameters :=
  Query.read (location.query?.getD [])

/-- The value of the first parameter of a name. -/
def parameter? (location : Location) (name : Text) : Option Text :=
  Query.get? location.parameters name

/-- A location with one parameter set; the whole query is written anew. -/
def setParameter (location : Location) (name value : Text) : Location :=
  { location with query? := some (Query.write (Query.set location.parameters name value)) }

end Location

end Polyglot
