import Polyglot.Decimal.Binary64
import Polyglot.Text.Basic

/-!
# The shortest decimal of a binary number

Of the decimals that read back as a given number, the shortest is the one with
the fewest digits, and among those the nearest.  For each number of digits only
the two neighbours of the number on that decimal grid can qualify, so at most
seventeen grids are tried.  `DecimalStyle` holds the choices of a printed form
that go beyond the digits.
-/

set_option autoImplicit false

namespace Polyglot

/-- The number `digits * 10 ^ exponent`. -/
structure Decimal where
  digits : Nat
  exponent : Int
  deriving DecidableEq, Repr

namespace Decimal

/-- A decimal as a quotient. -/
def ratio (x : Decimal) : Nat × Nat :=
  (x.digits * Nat.pow 10 x.exponent.toNat, Nat.pow 10 (-x.exponent).toNat)

/-- Whether a decimal rounds to a given binary number. -/
def readsBackAs (x : Decimal) (y : Binary64) : Bool :=
  Binary64.ofRatio? x.ratio.1 x.ratio.2 == some y

/-- The number of decimal digits before the point of a quotient that is at least
one, and for a smaller one minus the number of zeros after the point. -/
def magnitude (num den : Nat) : Int :=
  if den ≤ num then ((Nat.toDigits 10 (num / den)).length : Int)
  else
    let zeros := (Nat.toDigits 10 (den / num)).length - 1
    if den ≤ num * Nat.pow 10 zeros then 1 - (zeros : Int) else -(zeros : Int)

/-- Of the two neighbours of a number on the grid of a power of ten, the nearer
one that reads back as the number. -/
def onGrid? (y : Binary64) (e : Int) : Option Decimal :=
  let (num, den) := y.ratio
  let n := num * Nat.pow 10 (-e).toNat
  let d := den * Nat.pow 10 e.toNat
  let low : Decimal := ⟨n / d, e⟩
  let high : Decimal := ⟨n / d + 1, e⟩
  match low.readsBackAs y, high.readsBackAs y with
  | true, true => if 2 * (n % d) ≤ d then some low else some high
  | true, false => some low
  | false, true => some high
  | false, false => none

/-- The first grid, from `tried` digits on, that holds a decimal reading back. -/
def searchFrom (y : Binary64) (mag : Int) (tried : Nat) : Nat → Decimal
  | 0 => ⟨y.ratio.1 / y.ratio.2, 0⟩
  | fuel + 1 =>
    match onGrid? y (mag - tried) with
    | some x => x
    | none => searchFrom y mag (tried + 1) fuel

/-- The shortest decimal that reads back as a number. -/
def shortest (y : Binary64) : Decimal :=
  if y.mantissa = 0 then ⟨0, 0⟩
  else searchFrom y (magnitude y.ratio.1 y.ratio.2) 1 17

/-- The digits of a decimal without zeros at their end, and the exponent of the
first digit. -/
def scientific (x : Decimal) : Text × Int :=
  let digits := Text.ofNat x.digits
  let e := x.exponent + digits.length - 1
  match (digits.reverse.dropWhile (· == '0')).reverse with
  | [] => (['0'], 0)
  | kept => (kept, e)

end Decimal

/-- How a number is written down once its digits are known. -/
structure DecimalStyle where
  /-- The least exponent of the first digit that is written with a point. -/
  leastPlain : Int
  /-- The exponent from which on the number is written with a power of ten. -/
  firstPower : Int
  /-- What stands after a whole number in plain form. -/
  wholeEnding : Text
  /-- Whether a positive power of ten carries a sign. -/
  signedPower : Bool

namespace DecimalStyle

/-- Digits with a point after the first `before` of them. -/
def pointed (style : DecimalStyle) (digits : Text) (before : Nat) : Text :=
  if digits.length ≤ before then
    digits ++ List.replicate (before - digits.length) '0' ++ style.wholeEnding
  else digits.take before ++ '.' :: digits.drop before

/-- Digits with the exponent of the first one, as a power of ten. -/
def powered (style : DecimalStyle) (digits : Text) (e : Int) : Text :=
  let mantissa := match digits with
    | [] => []
    | [d] => [d]
    | d :: others => d :: '.' :: others
  let sign : Text := if e < 0 then ['-'] else if style.signedPower then ['+'] else []
  mantissa ++ 'e' :: sign ++ Text.ofNat e.natAbs

/-- The written form of a number that is not negative. -/
def write (style : DecimalStyle) (y : Binary64) : Text :=
  let (digits, e) := (Decimal.shortest y).scientific
  if e < style.leastPlain ∨ style.firstPower ≤ e then style.powered digits e
  else if e < 0 then '0' :: '.' :: List.replicate (-e - 1).toNat '0' ++ digits
  else style.pointed digits (e.toNat + 1)

end DecimalStyle

end Polyglot
