import Polyglot.Decimal.Shortest
import Polyglot.Json.Form
import Polyglot.Pairs.Basic

/-!
# JSON values

The value that a JSON text stands for: strings are texts, an integer that fits
64 bits is exact and every other number is a 64-bit binary fraction, and an
object has each key once, at its first place and with its last value.  A form
stands for no value when a string in it stands for no text, when a number is
too large, or when arrays and objects are nested too deep.
-/

set_option autoImplicit false

namespace Polyglot

/-- A number of a JSON value. -/
inductive JsonNumber where
  | integer (value : Int)
  /-- A signed number of the 64-bit format. -/
  | fractional (negative : Bool) (size : Binary64)
  deriving DecidableEq, Repr

/-- A JSON value. -/
inductive Json where
  | null
  | bool (value : Bool)
  | number (value : JsonNumber)
  | string (text : Text)
  | array (items : List Json)
  | object (members : List (Text × Json))
  deriving Inhabited

/-! ## Numbers -/

namespace Numeral

/-- The largest number that the leading digits may amount to. -/
def maxSignificand : Nat := 18446744073709551615

/-- Digits read onto a number for as long as it stays within bounds, and the
digits that no longer fit. -/
def absorb (significand : Nat) : Text → Nat × Text
  | [] => (significand, [])
  | d :: ds =>
    let next := significand * 10 + (d.toNat - '0'.toNat)
    if next ≤ maxSignificand then absorb next ds else (significand, d :: ds)

/-- A number divided by a power of ten, in steps of the largest power there is. -/
def divPow10? : Nat → Binary64 → Nat → Option Binary64
  | 0, _, _ => some Binary64.zero
  | fuel + 1, x, n =>
    if n ≤ 308 then (Binary64.pow10? n).bind x.div?
    else
      match (Binary64.pow10? 308).bind x.div? with
      | none => none
      | some y => if y.mantissa = 0 then some y else divPow10? fuel y (n - 308)

/-- A whole number times a power of ten, rounded before and after. -/
def scaled? (significand : Nat) (e : Int) : Option Binary64 :=
  match Binary64.ofRatio? significand 1 with
  | none => none
  | some x =>
    if x.mantissa = 0 then some x
    else if 308 < e then none
    else if 0 ≤ e then (Binary64.pow10? e.toNat).bind x.mul?
    else divPow10? 4 x e.natAbs

/-- The largest power of ten that is worked out; beyond it a number is zero or
too large. -/
def maxPower : Nat := 2147483647

/-- The value of a numeral.  A whole number that fits 64 bits is an integer,
except for a negative zero; all other numbers go through the digits that fit
into 64 bits. -/
def value? (numeral : Numeral) : Option JsonNumber :=
  let (whole, beyond) := absorb 0 numeral.whole
  match beyond, numeral.fraction, numeral.power? with
  | [], [], none =>
    if !numeral.negative then some (.integer whole)
    else if whole = 0 ∨ 9223372036854775808 < whole then
      (Binary64.ofRatio? whole 1).map (.fractional true)
    else some (.integer (-whole))
  | beyond, fraction, power? =>
    let (significand, unread) := absorb whole fraction
    let start : Int := beyond.length - ((fraction.length - unread.length : Nat) : Int)
    match power? with
    | none => (scaled? significand start).map (.fractional numeral.negative)
    | some (negative, digits) =>
      let e := Text.digitsValue digits
      if maxPower < e then
        if significand = 0 ∨ negative then some (.fractional numeral.negative Binary64.zero)
        else none
      else
        (scaled? significand (if negative then start - e else start + e)).map
          (.fractional numeral.negative)

end Numeral

/-! ## Objects -/

namespace Json

/-- Members with each key once, at its first place and with its last value. -/
def mergeMembers (members : List (Text × Json)) : List (Text × Json) :=
  members.foldl (fun merged (key, value) => Pairs.set key value merged) []

end Json

/-! ## From forms to values -/

namespace JsonForm

/-- How deep arrays and objects may be nested. -/
def maxDepth : Nat := 127

mutual

/-- The value of a form that may hold `depth` more levels of arrays and objects. -/
def valueWithin? (depth : Nat) : JsonForm → Option Json
  | .null => some .null
  | .bool b => some (.bool b)
  | .number numeral => numeral.value?.map .number
  | .string text? => text?.map .string
  | .array items =>
    match depth with
    | 0 => none
    | d + 1 => (itemValues? d items).map .array
  | .object members =>
    match depth with
    | 0 => none
    | d + 1 => (memberValues? d members).map fun pairs => .object (Json.mergeMembers pairs)

/-- The values of all items. -/
def itemValues? (depth : Nat) : List JsonForm → Option (List Json)
  | [] => some []
  | item :: rest =>
    match valueWithin? depth item, itemValues? depth rest with
    | some value, some values => some (value :: values)
    | _, _ => none

/-- The keys and values of all members, with their repetitions. -/
def memberValues? (depth : Nat) : List (Option Text × JsonForm) → Option (List (Text × Json))
  | [] => some []
  | (key?, member) :: rest =>
    match key?, valueWithin? depth member, memberValues? depth rest with
    | some key, some value, some values => some ((key, value) :: values)
    | _, _, _ => none

end

/-- The value that a form stands for. -/
def toValue? (form : JsonForm) : Option Json :=
  valueWithin? maxDepth form

end JsonForm

/-- The value that a text stands for. -/
def Json.read? (text : Text) : Option Json :=
  (JsonForm.read? text).bind JsonForm.toValue?

end Polyglot
