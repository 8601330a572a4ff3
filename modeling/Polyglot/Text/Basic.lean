/-!
# Texts

A text is a list of characters.  The operations here are the ones every other
module shares: measuring a text in UTF-8 bytes and cutting it at an offset in
bytes, taking a fixed beginning off, finding the first place where something
holds, cutting at a separator, and joining again.  All of them are structural, so
their equations can be used as they stand.
-/

set_option autoImplicit false

namespace Polyglot

/-- A sequence of characters. -/
abbrev Text : Type := List Char

namespace Text

/-! ## Measures -/

/-- The length of the UTF-8 form of a text. -/
def byteLength : Text → Nat
  | [] => 0
  | c :: rest => c.utf8Size + byteLength rest

@[simp] theorem byteLength_nil : byteLength [] = 0 := rfl

@[simp] theorem byteLength_cons (c : Char) (rest : Text) :
    byteLength (c :: rest) = c.utf8Size + byteLength rest := rfl

@[simp] theorem byteLength_append (left right : Text) :
    byteLength (left ++ right) = byteLength left + byteLength right := by
  induction left with
  | nil => simp
  | cons c rest ih => simp [ih, Nat.add_assoc]

/-! ## Offsets -/

/-- A text cut at an offset, which counts bytes.  There is no cut inside a character
or behind the end. -/
def cutAt? : Nat → Text → Option (Text × Text)
  | 0, text => some ([], text)
  | _ + 1, [] => none
  | offset + 1, c :: rest =>
    if c.utf8Size ≤ offset + 1 then
      (cutAt? (offset + 1 - c.utf8Size) rest).map fun (front, behind) => (c :: front, behind)
    else none

/-- What stands behind an offset. -/
def behind? (text : Text) (offset : Nat) : Option Text :=
  (cutAt? offset text).map Prod.snd

/-- What stands between two offsets. -/
def between? (text : Text) (start stop : Nat) : Option Text :=
  if start ≤ stop then
    (behind? text start).bind fun behind => (cutAt? (stop - start) behind).map Prod.fst
  else none

/-- How many characters of a text begin before an offset. -/
def countBefore : Nat → Text → Nat
  | 0, _ => 0
  | _ + 1, [] => 0
  | offset + 1, c :: rest => countBefore (offset + 1 - c.utf8Size) rest + 1

/-! ## Beginnings -/

/-- What remains of a text after a fixed beginning, if it begins that way. -/
def after? : Text → Text → Option Text
  | [], text => some text
  | _ :: _, [] => none
  | p :: ps, c :: rest => if p = c then after? ps rest else none

@[simp] theorem after?_append (lead rest : Text) : after? lead (lead ++ rest) = some rest := by
  induction lead with
  | nil => rfl
  | cons p ps ih => simp [after?, ih]

/-- A text has a beginning exactly when it is that beginning followed by what remains. -/
theorem after?_eq_some_iff {lead text rest : Text} :
    after? lead text = some rest ↔ text = lead ++ rest := by
  constructor
  · intro h
    induction lead generalizing text with
    | nil => simpa [after?] using h
    | cons p ps ih =>
      cases text with
      | nil => simp [after?] at h
      | cons c tail =>
        simp only [after?] at h
        split at h
        · next hpc => rw [List.cons_append, hpc, ih h]
        · simp at h
  · rintro rfl
    exact after?_append lead rest

/-- Whether a text begins in a fixed way. -/
def startsWith (lead text : Text) : Bool :=
  (after? lead text).isSome

/-! ## Searching -/

/-- The number of characters before the first non-empty ending of a text that
satisfies the test. -/
def firstWhere? (test : Text → Bool) : Text → Option Nat
  | [] => none
  | c :: rest => if test (c :: rest) then some 0 else (firstWhere? test rest).map (· + 1)

/-- Whether a pattern occurs anywhere in a text. -/
def contains (pattern : Text) : Text → Bool
  | [] => pattern.isEmpty
  | c :: rest => startsWith pattern (c :: rest) || contains pattern rest

/-! ## Cutting and joining -/

/-- The parts of a text on either side of the first separator. -/
def cut? (separator : Char) : Text → Option (Text × Text)
  | [] => none
  | c :: rest =>
    if c = separator then some ([], rest)
    else (cut? separator rest).map fun (left, right) => (c :: left, right)

/-- The parts of a text between separators; there is always at least one. -/
def pieces (separator : Char) : Text → List Text
  | [] => [[]]
  | c :: rest =>
    if c = separator then [] :: pieces separator rest
    else match pieces separator rest with
      | [] => [[c]]
      | piece :: others => (c :: piece) :: others

/-- Texts written one after the other with a separator between them. -/
def joined (separator : Text) : List Text → Text
  | [] => []
  | [last] => last
  | first :: second :: others => first ++ separator ++ joined separator (second :: others)

/-! ## ASCII letters -/

/-- A text with its ASCII capitals made small. -/
def asciiLower (text : Text) : Text :=
  text.map Char.toLower

/-- Equality up to the case of ASCII letters. -/
def equalsIgnoringCase (left right : Text) : Bool :=
  asciiLower left == asciiLower right

/-! ## Numbers -/

/-- A number in decimal digits. -/
def ofNat (n : Nat) : Text :=
  Nat.toDigits 10 n

/-- A number in decimal digits, filled up with zeros to a least width. -/
def ofNatPadded (width n : Nat) : Text :=
  List.replicate (width - (ofNat n).length) '0' ++ ofNat n

/-- The value of a decimal digit. -/
def digitValue? (c : Char) : Option Nat :=
  if '0' ≤ c ∧ c ≤ '9' then some (c.toNat - '0'.toNat) else none

/-- The value of a hexadecimal digit of either case. -/
def hexDigitValue? (c : Char) : Option Nat :=
  if '0' ≤ c ∧ c ≤ '9' then some (c.toNat - '0'.toNat)
  else if 'a' ≤ c ∧ c ≤ 'f' then some (c.toNat - 'a'.toNat + 10)
  else if 'A' ≤ c ∧ c ≤ 'F' then some (c.toNat - 'A'.toNat + 10)
  else none

/-- The value of a run of decimal digits read from the left. -/
def digitsValue (digits : Text) : Nat :=
  digits.foldl (fun value c => value * 10 + (c.toNat - '0'.toNat)) 0

end Text

end Polyglot
