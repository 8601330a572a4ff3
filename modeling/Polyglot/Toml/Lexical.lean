import Polyglot.Calendar.Date
import Polyglot.Settings.Basic

/-!
# The small parts of a TOML document

Blanks, comments and line ends, strings of the four kinds, keys, and the values
that are written without quotes.  Of a number or a date nothing is kept but that
it is one.
-/

set_option autoImplicit false

namespace Polyglot.Toml

/-! ## Between the parts -/

/-- The blanks inside a line. -/
def isGap (c : Char) : Bool :=
  c == ' ' || c == '\t'

/-- A text without blanks at its beginning. -/
def skipGaps (text : Text) : Text :=
  text.dropWhile isGap

/-- The characters that may stand in a line for themselves: all but controls,
except the tab. -/
def isPlain (c : Char) : Bool :=
  c == '\t' || (0x20 ≤ c.toNat && c.toNat != 0x7F)

/-- The text behind a line end. -/
def afterLineEnd? : Text → Option Text
  | '\n' :: rest => some rest
  | '\r' :: '\n' :: rest => some rest
  | _ => none

/-- A text without a comment at its beginning. -/
def skipComment : Text → Text
  | '#' :: rest => rest.dropWhile isPlain
  | text => text

/-- The text behind the rest of a line that says nothing more. -/
def nextLine? (text : Text) : Option Text :=
  match skipComment (skipGaps text) with
  | [] => some []
  | rest => afterLineEnd? rest

/-- The text behind blanks, line ends and comments.  `within` says whether the
text begins inside a comment. -/
def skipLines? : Bool → Text → Option Text
  | _, [] => some []
  | _, '\n' :: rest => skipLines? false rest
  | _, '\r' :: '\n' :: rest => skipLines? false rest
  | true, c :: rest => if isPlain c then skipLines? true rest else none
  | false, '#' :: rest => skipLines? true rest
  | false, c :: rest => if isGap c then skipLines? false rest else some (c :: rest)

/-! ## Strings -/

/-- The character that hexadecimal digits number. -/
def numbered? (digits : Text) : Option Char :=
  (digits.mapM Text.hexDigitValue?).bind fun values =>
    let n := values.foldl (fun n value => n * 16 + value) 0
    if n.isValidChar then some (Char.ofNat n) else none

/-- The character that is written behind a backslash, and the text behind it. -/
def escape? : Text → Option (Char × Text)
  | 'b' :: rest => some ('\x08', rest)
  | 't' :: rest => some ('\t', rest)
  | 'n' :: rest => some ('\n', rest)
  | 'f' :: rest => some ('\x0c', rest)
  | 'r' :: rest => some ('\r', rest)
  | '"' :: rest => some ('"', rest)
  | '\\' :: rest => some ('\\', rest)
  | 'u' :: rest =>
    if rest.length < 4 then none else (numbered? (rest.take 4)).map (·, rest.drop 4)
  | 'U' :: rest =>
    if rest.length < 8 then none else (numbered? (rest.take 8)).map (·, rest.drop 8)
  | _ => none

/-- A string in one line whose opening double quote has been read.  The fuel
bounds the number of steps, of which each takes a character. -/
def basicFrom? : Nat → Text → Option (Text × Text)
  | 0, _ => none
  | _ + 1, [] => none
  | _ + 1, '"' :: rest => some ([], rest)
  | fuel + 1, '\\' :: rest => do
    let (c, rest) ← escape? rest
    let (content, rest) ← basicFrom? fuel rest
    some (c :: content, rest)
  | fuel + 1, c :: rest =>
    if isPlain c then (basicFrom? fuel rest).map fun (content, rest) => (c :: content, rest)
    else none

/-- A string in one line whose opening single quote has been read. -/
def literalFrom? : Text → Option (Text × Text)
  | [] => none
  | '\'' :: rest => some ([], rest)
  | c :: rest =>
    if isPlain c then (literalFrom? rest).map fun (content, rest) => (c :: content, rest)
    else none

/-- The text behind three quotes that close a string, and the quotes of the string
itself that stand before them: two at most.  Fewer than three quotes close
nothing, and then the outer result is none; more than five are too many, and then
the inner one is. -/
def closing? (quote : Char) (text : Text) : Option (Option (Text × Text)) :=
  let quotes := text.takeWhile (· == quote)
  if quotes.length < 3 then none
  else if 5 < quotes.length then some none
  else some (some (quotes.drop 3, text.drop quotes.length))

/-- A text without blanks and line ends at its beginning. -/
def skipBreaks : Text → Text
  | '\r' :: '\n' :: rest => skipBreaks rest
  | c :: rest => if isGap c || c == '\n' then skipBreaks rest else c :: rest
  | [] => []

/-- The text behind blanks and line ends, if there is a line end at the end of the
line. -/
def joinedLine? (text : Text) : Option Text :=
  (afterLineEnd? (skipGaps text)).map skipBreaks

/-- A string over several lines whose three opening double quotes have been read.
A backslash at the end of a line joins the next one to it. -/
def longBasicFrom? : Nat → Text → Option (Text × Text)
  | 0, _ => none
  | fuel + 1, text =>
    match closing? '"' text with
    | some closed => closed
    | none =>
      match text with
      | [] => none
      | '\\' :: rest =>
        match joinedLine? rest with
        | some rest => longBasicFrom? fuel rest
        | none => do
          let (c, rest) ← escape? rest
          let (content, rest) ← longBasicFrom? fuel rest
          some (c :: content, rest)
      | '\r' :: '\n' :: rest
      | '\n' :: rest =>
        (longBasicFrom? fuel rest).map fun (content, rest) => ('\n' :: content, rest)
      | c :: rest =>
        if isPlain c then
          (longBasicFrom? fuel rest).map fun (content, rest) => (c :: content, rest)
        else none

/-- A string over several lines whose three opening single quotes have been
read. -/
def longLiteralFrom? : Nat → Text → Option (Text × Text)
  | 0, _ => none
  | fuel + 1, text =>
    match closing? '\'' text with
    | some closed => closed
    | none =>
      match text with
      | [] => none
      | '\r' :: '\n' :: rest
      | '\n' :: rest =>
        (longLiteralFrom? fuel rest).map fun (content, rest) => ('\n' :: content, rest)
      | c :: rest =>
        if isPlain c then
          (longLiteralFrom? fuel rest).map fun (content, rest) => (c :: content, rest)
        else none

/-- A string over several lines does not begin with the line end that may follow
its opening quotes. -/
def skipFirstLineEnd (text : Text) : Text :=
  (afterLineEnd? text).getD text

/-- A string in one line. -/
def shortString? : Text → Option (Text × Text)
  | '"' :: rest => basicFrom? (rest.length + 1) rest
  | '\'' :: rest => literalFrom? rest
  | _ => none

/-- A string. -/
def string? : Text → Option (Text × Text)
  | '"' :: '"' :: '"' :: rest => longBasicFrom? (rest.length + 1) (skipFirstLineEnd rest)
  | '\'' :: '\'' :: '\'' :: rest => longLiteralFrom? (rest.length + 1) (skipFirstLineEnd rest)
  | text => shortString? text

/-! ## Keys -/

/-- The characters of a key without quotes. -/
def isKeyChar (c : Char) : Bool :=
  c.isAlphanum || c == '_' || c == '-'

/-- A single key. -/
def key? (text : Text) : Option (Text × Text) :=
  match text.takeWhile isKeyChar with
  | [] => shortString? text
  | bare => some (bare, text.dropWhile isKeyChar)

/-- Keys with points between them, and the text behind them without blanks: the
keys before the last, and the last. -/
def keys? : Nat → Text → Option (List Text × Text × Text)
  | 0, _ => none
  | fuel + 1, text => do
    let (key, rest) ← key? (skipGaps text)
    match skipGaps rest with
    | '.' :: rest => do
      let (path, last, rest) ← keys? fuel rest
      some (key :: path, last, rest)
    | rest => some ([], key, rest)

/-! ## Numbers and dates -/

/-- Whether a text is a run of digits, with single underscores between them. -/
def isDigits (isDigit : Char → Bool) : Text → Bool
  | [] => false
  | [c] => isDigit c
  | c :: '_' :: rest => isDigit c && isDigits isDigit rest
  | c :: rest => isDigit c && isDigits isDigit rest

/-- Whether a character is a digit to a base of at most sixteen. -/
def isDigitOf (base : Nat) (c : Char) : Bool :=
  match Text.hexDigitValue? c with
  | some value => value < base
  | none => false

/-- The number that digits write to a base, underscores aside. -/
def digitsValue (base : Nat) (digits : Text) : Nat :=
  (digits.filterMap Text.hexDigitValue?).foldl (fun n value => n * base + value) 0

/-- Whether digits write a whole number in the usual way: without a needless zero
at the beginning. -/
def isWhole (digits : Text) : Bool :=
  isDigits Char.isDigit digits && (digits.head? != some '0' || digits == ['0'])

/-- A text without a sign at its beginning, and whether the sign is a minus. -/
def unsigned : Text → Bool × Text
  | '-' :: rest => (true, rest)
  | '+' :: rest => (false, rest)
  | text => (false, text)

/-- Two to the power of 63, which bounds the integers of 64 bits. -/
def integerBound : Nat := 9223372036854775808

/-- Whether a text is an integer of 64 bits. -/
def isInteger (text : Text) : Bool :=
  match text with
  | '0' :: 'x' :: digits => isDigits (isDigitOf 16) digits && digitsValue 16 digits < integerBound
  | '0' :: 'o' :: digits => isDigits (isDigitOf 8) digits && digitsValue 8 digits < integerBound
  | '0' :: 'b' :: digits => isDigits (isDigitOf 2) digits && digitsValue 2 digits < integerBound
  | _ =>
    let (negative, digits) := unsigned text
    isWhole digits && digitsValue 10 digits < integerBound + (if negative then 1 else 0)

/-- Whether a text is the power of ten of a number, if it is there at all. -/
def isPower : Option Text → Bool
  | none => true
  | some text => isDigits Char.isDigit (unsigned text).2

/-- Whether a text is a number with a fraction or a power of ten, or one of the
values that are no number. -/
def isFraction (text : Text) : Bool :=
  let (_, digits) := unsigned text
  if digits == "inf".toList || digits == "nan".toList then true
  else
    let mantissa := digits.takeWhile fun c => c != 'e' && c != 'E'
    let power? := if mantissa.length < digits.length then some (digits.drop (mantissa.length + 1))
      else none
    isPower power? &&
      match Text.cut? '.' mantissa with
      | some (whole, fraction) => isWhole whole && isDigits Char.isDigit fraction
      | none => power?.isSome && isWhole mantissa

/-- The number of two digits. -/
def pair? : Text → Option (Nat × Text)
  | a :: b :: rest => do
    let a ← Text.digitValue? a
    let b ← Text.digitValue? b
    some (a * 10 + b, rest)
  | _ => none

/-- The text behind a date. -/
def afterDate? (text : Text) : Option Text := do
  let (century, rest) ← pair? text
  let (year, rest) ← pair? rest
  let rest ← Text.after? ['-'] rest
  let (month, rest) ← pair? rest
  let rest ← Text.after? ['-'] rest
  let (day, rest) ← pair? rest
  if (Date.mk (century * 100 + year) month day).isValid then some rest else none

/-- The text behind a time of day. -/
def afterTime? (text : Text) : Option Text := do
  let (hour, rest) ← pair? text
  let rest ← Text.after? [':'] rest
  let (minute, rest) ← pair? rest
  let rest ← Text.after? [':'] rest
  let (second, rest) ← pair? rest
  if 23 < hour || 59 < minute || 60 < second then none
  else
    match rest with
    | '.' :: digits =>
      if (digits.takeWhile Char.isDigit).isEmpty then none
      else some (digits.dropWhile Char.isDigit)
    | _ => some rest

/-- Whether a text is a distance from universal time, or nothing. -/
def isOffset (text : Text) : Bool :=
  match text with
  | [] => true
  | ['z'] => true
  | ['Z'] => true
  | c :: rest =>
    (c == '+' || c == '-') &&
      match pair? rest with
      | some (hour, ':' :: rest) =>
        match pair? rest with
        | some (minute, []) => hour ≤ 23 && minute ≤ 59
        | _ => false
      | _ => false

/-- Whether a text is a time of day that follows a date. -/
def isTimeOfDate (text : Text) : Bool :=
  match afterTime? text with
  | some rest => isOffset rest
  | none => false

/-- What is written without quotes. -/
inductive Scalar where
  /-- A truth value or a number. -/
  | plain
  /-- A date with nothing behind it. -/
  | date
  /-- A time of day, or a date with a time of day. -/
  | time
  deriving DecidableEq, Repr

/-- The kind of scalar that a text is. -/
def scalarOf? (text : Text) : Option Scalar :=
  if text == "true".toList || text == "false".toList then some .plain
  else if isInteger text || isFraction text then some .plain
  else
    match afterDate? text with
    | some [] => some .date
    | some (c :: rest) => if (c == 'T' || c == 't') && isTimeOfDate rest then some .time else none
    | none => if afterTime? text == some [] then some .time else none

/-- The characters of scalars. -/
def isScalarChar (c : Char) : Bool :=
  c.isAlphanum || c == '_' || c == '-' || c == '+' || c == '.' || c == ':'

/-- A scalar at the front of a text, as a setting.  A date or a time is a record,
none of whose fields is known to any setting.  Between a date and its time of day
there may be a blank. -/
def scalar? (text : Text) : Option (Setting × Text) :=
  let rest := text.dropWhile isScalarChar
  match scalarOf? (text.takeWhile isScalarChar) with
  | none => none
  | some .plain => some (.other, rest)
  | some .time => some (.table [], rest)
  | some .date =>
    match rest with
    | ' ' :: later =>
      match later.takeWhile isScalarChar with
      | [] => some (.table [], rest)
      | time => if isTimeOfDate time then some (.table [], later.dropWhile isScalarChar) else none
    | _ => some (.table [], rest)

end Polyglot.Toml
