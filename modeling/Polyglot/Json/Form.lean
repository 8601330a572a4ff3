import Polyglot.Text.Basic

/-!
# JSON as it is written

A `JsonForm` is a text of RFC 8259 with its structure made plain and nothing
else decided: numbers are kept digit by digit, members keep their order and
their repetitions, and a string literal that holds half of a surrogate pair is
kept as one that stands for no text.  `JsonForm.read?` accepts a text exactly
when it is one value with blanks around it.
-/

set_option autoImplicit false

namespace Polyglot

/-- A number as its digits. -/
structure Numeral where
  negative : Bool
  /-- The digits before the point. -/
  whole : Text
  /-- The digits after the point, empty if there is no point. -/
  fraction : Text
  /-- The sign and the digits of the power of ten. -/
  power? : Option (Bool × Text)
  deriving DecidableEq, Repr

/-- A JSON text taken apart. -/
inductive JsonForm where
  | null
  | bool (value : Bool)
  | number (numeral : Numeral)
  /-- A string literal; without a text it holds half of a surrogate pair. -/
  | string (text? : Option Text)
  | array (items : List JsonForm)
  | object (members : List (Option Text × JsonForm))
  deriving Inhabited

namespace JsonForm

/-! ## Characters -/

/-- The blanks that may stand between the parts of a JSON text. -/
def isGap (c : Char) : Bool :=
  c == ' ' || c == '\t' || c == '\n' || c == '\r'

/-- A text without blanks at its beginning. -/
def skipGaps (text : Text) : Text :=
  text.dropWhile isGap

/-- The characters that a one-letter escape stands for. -/
def escaped? (c : Char) : Option Char :=
  match c with
  | '"' => some '"'
  | '\\' => some '\\'
  | '/' => some '/'
  | 'b' => some '\x08'
  | 'f' => some '\x0c'
  | 'n' => some '\n'
  | 'r' => some '\r'
  | 't' => some '\t'
  | _ => none

/-- The number that four hexadecimal digits write, and what follows them. -/
def hexQuad? : Text → Option (Nat × Text)
  | a :: b :: c :: d :: rest => do
    let a ← Text.hexDigitValue? a
    let b ← Text.hexDigitValue? b
    let c ← Text.hexDigitValue? c
    let d ← Text.hexDigitValue? d
    some (a * 4096 + b * 256 + c * 16 + d, rest)
  | _ => none

/-- Whether a unit is the first half of a surrogate pair. -/
def isHighSurrogate (n : Nat) : Bool := 0xD800 ≤ n && n ≤ 0xDBFF

/-- Whether a unit is the second half of a surrogate pair. -/
def isLowSurrogate (n : Nat) : Bool := 0xDC00 ≤ n && n ≤ 0xDFFF

/-- The units of a string literal with the surrogate pairs joined; none if half
of a pair stands alone. -/
def joinSurrogates? : List Nat → Option Text
  | [] => some []
  | [n] => if isHighSurrogate n || isLowSurrogate n then none else some [Char.ofNat n]
  | high :: low :: rest =>
    if isHighSurrogate high then
      if isLowSurrogate low then
        (joinSurrogates? rest).map
          (Char.ofNat (0x10000 + (high - 0xD800) * 0x400 + (low - 0xDC00)) :: ·)
      else none
    else if isLowSurrogate high then none
    else (joinSurrogates? (low :: rest)).map (Char.ofNat high :: ·)

/-- The units of a string literal whose opening quote has been read, and what
follows its closing quote. -/
def literalUnits? : Nat → Text → Option (List Nat × Text)
  | 0, _ => none
  | _ + 1, [] => none
  | _ + 1, '"' :: rest => some ([], rest)
  | fuel + 1, '\\' :: 'u' :: rest => do
    let (n, rest) ← hexQuad? rest
    let (units, rest) ← literalUnits? fuel rest
    some (n :: units, rest)
  | fuel + 1, '\\' :: c :: rest => do
    let c ← escaped? c
    let (units, rest) ← literalUnits? fuel rest
    some (c.toNat :: units, rest)
  | fuel + 1, c :: rest =>
    if c == '\\' || c.toNat < 0x20 then none
    else do
      let (units, rest) ← literalUnits? fuel rest
      some (c.toNat :: units, rest)

/-- A string literal whose opening quote has been read. -/
def literal? (text : Text) : Option (Option Text × Text) := do
  let (units, rest) ← literalUnits? (text.length + 1) text
  some (joinSurrogates? units, rest)

/-! ## Numbers -/

/-- A run of digits that must not be empty, and what follows it. -/
def digits? (text : Text) : Option (Text × Text) :=
  match text.takeWhile Char.isDigit with
  | [] => none
  | run => some (run, text.dropWhile Char.isDigit)

/-- The digits before the point: a single zero, or digits that begin with none. -/
def whole? (text : Text) : Option (Text × Text) := do
  let (run, rest) ← digits? text
  if run.head? = some '0' ∧ 1 < run.length then none else some (run, rest)

/-- The digits after the point, if there is one. -/
def fraction? : Text → Option (Text × Text)
  | '.' :: rest => digits? rest
  | text => some ([], text)

/-- The power of ten, if there is one. -/
def power? : Text → Option (Option (Bool × Text) × Text)
  | [] => some (none, [])
  | c :: rest =>
    if c == 'e' || c == 'E' then do
      let (negative, rest) := match rest with
        | '+' :: rest => (false, rest)
        | '-' :: rest => (true, rest)
        | rest => (false, rest)
      let (run, rest) ← digits? rest
      some (some (negative, run), rest)
    else some (none, c :: rest)

/-- A number at the front of a text. -/
def numeral? (text : Text) : Option (Numeral × Text) := do
  let (negative, rest) := match text with
    | '-' :: rest => (true, rest)
    | rest => (false, rest)
  let (whole, rest) ← whole? rest
  let (fraction, rest) ← fraction? rest
  let (power, rest) ← power? rest
  some (⟨negative, whole, fraction, power⟩, rest)

/-! ## Values

The fuel bounds the depth of the recursion.  Every step takes at least one
character, so the length of the text is enough. -/

mutual

/-- A value at the front of a text. -/
def value? : Nat → Text → Option (JsonForm × Text)
  | 0, _ => none
  | fuel + 1, text =>
    match skipGaps text with
    | 'n' :: 'u' :: 'l' :: 'l' :: rest => some (.null, rest)
    | 't' :: 'r' :: 'u' :: 'e' :: rest => some (.bool true, rest)
    | 'f' :: 'a' :: 'l' :: 's' :: 'e' :: rest => some (.bool false, rest)
    | '"' :: rest => (literal? rest).map fun (text, rest) => (.string text, rest)
    | '[' :: rest =>
      match skipGaps rest with
      | ']' :: rest => some (.array [], rest)
      | rest => (items? fuel rest).map fun (items, rest) => (.array items, rest)
    | '\x7b' :: rest =>
      match skipGaps rest with
      | '\x7d' :: rest => some (.object [], rest)
      | rest => (members? fuel rest).map fun (members, rest) => (.object members, rest)
    | text => (numeral? text).map fun (numeral, rest) => (.number numeral, rest)

/-- The items of an array, at least one, up to its closing bracket. -/
def items? : Nat → Text → Option (List JsonForm × Text)
  | 0, _ => none
  | fuel + 1, text =>
    match value? fuel text with
    | none => none
    | some (item, rest) =>
      match skipGaps rest with
      | ']' :: rest => some ([item], rest)
      | ',' :: rest => (items? fuel rest).map fun (items, rest) => (item :: items, rest)
      | _ => none

/-- The members of an object, at least one, up to its closing brace. -/
def members? : Nat → Text → Option (List (Option Text × JsonForm) × Text)
  | 0, _ => none
  | fuel + 1, text =>
    match skipGaps text with
    | '"' :: rest =>
      match literal? rest with
      | none => none
      | some (key, rest) =>
        match skipGaps rest with
        | ':' :: rest =>
          match value? fuel rest with
          | none => none
          | some (member, rest) =>
            match skipGaps rest with
            | '\x7d' :: rest => some ([(key, member)], rest)
            | ',' :: rest =>
              (members? fuel rest).map fun (members, rest) => ((key, member) :: members, rest)
            | _ => none
        | _ => none
    | _ => none

end

/-- The form of a text that is one JSON value and nothing else. -/
def read? (text : Text) : Option JsonForm :=
  match value? (text.length + 1) text with
  | none => none
  | some (form, rest) => if (skipGaps rest).isEmpty then some form else none

end JsonForm

end Polyglot
