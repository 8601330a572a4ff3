/-!
# Binary fractions of 64 bits

The non-negative finite numbers of the 64-bit binary format, each as a mantissa
and a power of two, together with the one operation everything else is made of:
the number of the format that lies nearest to a quotient of natural numbers, a
tie going to the even mantissa.  Products and quotients of such numbers are
computed exactly first and rounded once.
-/

set_option autoImplicit false

namespace Polyglot

/-- The number `mantissa * 2 ^ exponent`. -/
structure Binary64 where
  mantissa : Nat
  exponent : Int
  deriving DecidableEq, Repr

namespace Binary64

/-- The exponent of the smallest numbers of the format. -/
def leastExponent : Int := -1074

/-- The exponent of the largest numbers of the format. -/
def greatestExponent : Int := 971

/-- Zero. -/
def zero : Binary64 := ⟨0, leastExponent⟩

/-- A number as a quotient: numerator and denominator. -/
def ratio (x : Binary64) : Nat × Nat :=
  (x.mantissa * Nat.pow 2 x.exponent.toNat, Nat.pow 2 (-x.exponent).toNat)

/-- A quotient to the nearest integer, a tie to the even one. -/
def divToNearestEven (num den : Nat) : Nat :=
  let q := num / den
  let r := num % den
  if 2 * r < den then q
  else if den < 2 * r then q + 1
  else if q % 2 = 0 then q else q + 1

/-- Numerator and denominator after division by a power of two. -/
def divPow (num den : Nat) (e : Int) : Nat × Nat :=
  (num * Nat.pow 2 (-e).toNat, den * Nat.pow 2 e.toNat)

/-- The exponent at which a quotient has a mantissa of 53 binary digits, but not
below the least exponent. -/
def exponentFor (num den : Nat) : Int :=
  let guess : Int := (Nat.log2 num : Int) - (Nat.log2 den : Int) - 52
  let (n, d) := divPow num den guess
  max (if n < d * Nat.pow 2 52 then guess - 1 else guess) leastExponent

/-- The number of the format nearest to a quotient; none if the quotient is too
large for the format. -/
def ofRatio? (num den : Nat) : Option Binary64 :=
  if num = 0 then some zero
  else
    let e := exponentFor num den
    let (n, d) := divPow num den e
    let m := divToNearestEven n d
    let x : Binary64 := if m = Nat.pow 2 53 then ⟨Nat.pow 2 52, e + 1⟩ else ⟨m, e⟩
    if x.mantissa = 0 then some zero
    else if greatestExponent < x.exponent then none else some x

/-- The rounded product. -/
def mul? (x y : Binary64) : Option Binary64 :=
  ofRatio? (x.ratio.1 * y.ratio.1) (x.ratio.2 * y.ratio.2)

/-- The rounded quotient. -/
def div? (x y : Binary64) : Option Binary64 :=
  ofRatio? (x.ratio.1 * y.ratio.2) (x.ratio.2 * y.ratio.1)

/-- The power of ten nearest to the exact one. -/
def pow10? (n : Nat) : Option Binary64 :=
  ofRatio? (Nat.pow 10 n) 1

end Binary64

end Polyglot
