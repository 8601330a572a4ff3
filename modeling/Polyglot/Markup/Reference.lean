import Polyglot.Text.Utf8

/-!
# Character references

A reference is an ampersand with a name or a number behind it.  A number stands
for the character of that number, with two exceptions: what is no character is
replaced, and the numbers from 128 to 159 are read in the way of an old
encoding.  In the value of an attribute a name needs its semicolon if a letter,
a digit or an equals sign follows.

Of the two thousand names that a browser knows the table has only the few that
markup cannot do without; a reference by another name stays as it is.
-/

set_option autoImplicit false

namespace Polyglot.Markup

/-- The named references that are known: the name, whether it needs its
semicolon, and the character. -/
def namedReferences : List (Text × Bool × Char) := [
  (['a', 'm', 'p'], false, '&'),
  (['A', 'M', 'P'], false, '&'),
  (['l', 't'], false, '<'),
  (['L', 'T'], false, '<'),
  (['g', 't'], false, '>'),
  (['G', 'T'], false, '>'),
  (['q', 'u', 'o', 't'], false, '"'),
  (['Q', 'U', 'O', 'T'], false, '"'),
  (['n', 'b', 's', 'p'], false, '\u00A0'),
  (['a', 'p', 'o', 's'], true, '\'')]

/-- The characters of the numbers from 128 on that do not stand for themselves. -/
def reassigned : List Nat := [
  0x20AC, 0x81, 0x201A, 0x0192, 0x201E, 0x2026, 0x2020, 0x2021, 0x02C6, 0x2030, 0x0160, 0x2039,
  0x0152, 0x8D, 0x017D, 0x8F, 0x90, 0x2018, 0x2019, 0x201C, 0x201D, 0x2022, 0x2013, 0x2014,
  0x02DC, 0x2122, 0x0161, 0x203A, 0x0153, 0x9D, 0x017E, 0x0178]

/-- The character that a numeric reference stands for. -/
def numbered (n : Nat) : Char :=
  if n = 0 ∨ 0x10FFFF < n ∨ (0xD800 ≤ n ∧ n ≤ 0xDFFF) then replacementChar
  else if 0x80 ≤ n ∧ n ≤ 0x9F then Char.ofNat (reassigned.getD (n - 0x80) n)
  else Char.ofNat n

/-- The rest of a text after a semicolon, if there is one. -/
def skipSemicolon : Text → Text
  | ';' :: rest => rest
  | rest => rest

/-- The value of a run of digits of some base; it stops growing where it can
stand for no character any more. -/
def boundedValue (base : Nat) (values : List Nat) : Nat :=
  values.foldl (fun value d => if 0x10FFFF < value then value else value * base + d) 0

/-- A numeric reference after its ampersand and number sign. -/
def numericReference? (text : Text) : Option (Char × Text) :=
  let (base, digitOf, body) : Nat × (Char → Option Nat) × Text := match text with
    | 'x' :: rest => (16, Text.hexDigitValue?, rest)
    | 'X' :: rest => (16, Text.hexDigitValue?, rest)
    | rest => (10, Text.digitValue?, rest)
  match body.takeWhile fun c => (digitOf c).isSome with
  | [] => none
  | digits =>
    some (numbered (boundedValue base (digits.filterMap digitOf)),
      skipSemicolon (body.drop digits.length))

/-- Whether a character keeps a name from ending in the value of an attribute. -/
def continuesName (c : Char) : Bool :=
  c == '=' || c.isAlphanum

/-- A named reference after its ampersand. -/
def namedReference? (inAttribute : Bool) (text : Text) : Option (Char × Text) :=
  namedReferences.findSome? fun (name, needsSemicolon, c) =>
    match Text.after? name text with
    | none => none
    | some (';' :: rest) => some (c, rest)
    | some rest =>
      if needsSemicolon || (inAttribute && rest.head?.any continuesName) then none
      else some (c, rest)

/-- A reference after its ampersand: the character and what follows. -/
def reference? (inAttribute : Bool) : Text → Option (Char × Text)
  | '#' :: rest => numericReference? rest
  | text => namedReference? inAttribute text

/-- A text with its references resolved, when the next `skip` characters belong
to one that was resolved already. -/
def resolveFrom (inAttribute : Bool) : Nat → Text → Text
  | _, [] => []
  | skip + 1, _ :: rest => resolveFrom inAttribute skip rest
  | 0, c :: rest =>
    if c = '&' then
      match reference? inAttribute rest with
      | some (resolved, after) =>
        resolved :: resolveFrom inAttribute (rest.length - after.length) rest
      | none => c :: resolveFrom inAttribute 0 rest
    else c :: resolveFrom inAttribute 0 rest

/-- A text with its references resolved. -/
def resolve (inAttribute : Bool) (text : Text) : Text :=
  resolveFrom inAttribute 0 text

end Polyglot.Markup
