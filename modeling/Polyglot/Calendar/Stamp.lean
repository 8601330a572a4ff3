import Polyglot.Calendar.Date
import Polyglot.Text.Blank

/-!
# Instants in writing

A stamp names the weekday, the date and the time of an instant, as in
`Wed, 18 Nov 2026 12:00:00 GMT`.  Years of four digits have no sign, all others
have one.  Reading is more generous than writing: letters may be of either case,
numbers may be shorter, blanks may be left out or repeated where they separate,
and the second may be the sixtieth.  The weekday must be the right one.
-/

set_option autoImplicit false

namespace Polyglot.Stamp

/-- The names of the days of the week, from Sunday. -/
def weekdays : List Text := [
  ['S', 'u', 'n'], ['M', 'o', 'n'], ['T', 'u', 'e'], ['W', 'e', 'd'], ['T', 'h', 'u'],
  ['F', 'r', 'i'], ['S', 'a', 't']]

/-- The names of the months, from January. -/
def months : List Text := [
  ['J', 'a', 'n'], ['F', 'e', 'b'], ['M', 'a', 'r'], ['A', 'p', 'r'], ['M', 'a', 'y'],
  ['J', 'u', 'n'], ['J', 'u', 'l'], ['A', 'u', 'g'], ['S', 'e', 'p'], ['O', 'c', 't'],
  ['N', 'o', 'v'], ['D', 'e', 'c']]

/-- What every stamp ends in. -/
def zone : Text := ['G', 'M', 'T']

/-! ## Writing -/

/-- A year of four digits, or a signed one of four digits at least. -/
def writeYear (year : Int) : Text :=
  if 0 ≤ year ∧ year ≤ 9999 then Text.ofNatPadded 4 year.natAbs
  else (if year < 0 then '-' else '+') :: Text.ofNatPadded 4 year.natAbs

/-- A time of day. -/
def writeTime (seconds : Nat) : Text :=
  Text.ofNatPadded 2 (seconds / 3600) ++ ':' :: Text.ofNatPadded 2 (seconds / 60 % 60)
    ++ ':' :: Text.ofNatPadded 2 (seconds % 60)

/-- The stamp of an instant. -/
def write (instant : Instant) : Text :=
  let date := instant.date
  weekdays.getD date.weekday [] ++ ',' :: ' ' :: Text.ofNatPadded 2 date.day
    ++ ' ' :: months.getD (date.month - 1) [] ++ ' ' :: writeYear date.year
    ++ ' ' :: writeTime instant.secondOfDay ++ ' ' :: zone

/-! ## Reading -/

/-- Which of the names stands at the front of a text, in letters of either case,
and what follows it. -/
def name? (names : List Text) (text : Text) : Option (Nat × Text) :=
  (names.findIdx? fun name => Text.equalsIgnoringCase name (text.take 3)).map
    fun index => (index, text.drop 3)

/-- A number of at most `width` digits, and what follows it. -/
def digits? (width : Nat) (text : Text) : Option (Nat × Text) :=
  match (text.take width).takeWhile Char.isDigit with
  | [] => none
  | run => some (Text.digitsValue run, text.drop run.length)

/-- A number of two digits at most after blanks, and what follows it. -/
def number? (text : Text) : Option (Nat × Text) :=
  digits? 2 (Text.trimStart text)

/-- A year after blanks: four digits at most, or any number of them after a sign. -/
def year? (text : Text) : Option (Int × Text) :=
  match Text.trimStart text with
  | '-' :: rest => (digits? rest.length rest).map fun (n, rest) => (-(n : Int), rest)
  | '+' :: rest => (digits? rest.length rest).map fun (n, rest) => ((n : Int), rest)
  | rest => (digits? 4 rest).map fun (n, rest) => ((n : Int), rest)

/-- A time of day, and what follows it.  The sixtieth second is the first of the
next minute. -/
def time? (text : Text) : Option (Nat × Text) := do
  let (hour, rest) ← number? text
  let (minute, rest) ← number? (← Text.after? [':'] rest)
  let (second, rest) ← number? (← Text.after? [':'] rest)
  if hour ≤ 23 ∧ minute ≤ 59 ∧ second ≤ 60 then
    some (hour * 3600 + minute * 60 + second, rest)
  else none

/-- The instant that a text stamps. -/
def read? (text : Text) : Option Instant := do
  let (weekday, rest) ← name? weekdays text
  let (day, rest) ← number? (← Text.after? [','] rest)
  let (month, rest) ← name? months (Text.trimStart rest)
  let (year, rest) ← year? rest
  let (seconds, rest) ← time? rest
  let rest ← Text.after? zone (Text.trimStart rest)
  let date : Date := ⟨year, month + 1, day⟩
  if rest.isEmpty ∧ date.isValid = true ∧ date.weekday = weekday then
    some (Instant.ofDate date seconds)
  else none

end Polyglot.Stamp
