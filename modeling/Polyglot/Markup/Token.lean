import Polyglot.Markup.Element
import Polyglot.Markup.Reference
import Polyglot.Text.Blank

/-!
# Tokens of markup

A markup text is a sequence of tokens: texts, comments, document types, tags,
and elements whose content is not markup, which are one token from the start tag
to the end tag.  Every text is read as some sequence of tokens; what does not
fit is a text or a comment.  There are no sections of character data as there
are in drawings and formulas.
-/

set_option autoImplicit false

namespace Polyglot.Markup

/-- A part of a markup text. -/
inductive Token where
  | text (text : Text)
  | comment (text : Text)
  | doctype (name : Text)
  /-- A start tag. -/
  | opens (tag : Text) (attributes : List (Text × Text))
  /-- An end tag. -/
  | closes (tag : Text)
  /-- An element whose content is a text. -/
  | whole (tag : Text) (attributes : List (Text × Text)) (content : Text)
  deriving DecidableEq, Repr

namespace Token

/-! ## Characters -/

/-- A text whose lines all end in a line feed. -/
def unifyLineEnds : Text → Text
  | [] => []
  | '\r' :: '\n' :: rest => '\n' :: unifyLineEnds rest
  | '\r' :: rest => '\n' :: unifyLineEnds rest
  | c :: rest => c :: unifyLineEnds rest

/-- A text without the byte order mark that it may begin with. -/
def dropMark : Text → Text
  | '\uFEFF' :: rest => rest
  | rest => rest

/-- A text whose null characters are replaced. -/
def replaceNulls (text : Text) : Text :=
  text.map fun c => if c = '\x00' then replacementChar else c

/-- A text without its null characters. -/
def dropNulls (text : Text) : Text :=
  text.filter (· != '\x00')

/-- A text without the line feed that it may begin with. -/
def dropLineFeed : Text → Text
  | '\n' :: rest => rest
  | rest => rest

/-! ## Comments -/

/-- What ends a comment at the front of a text: two hyphens, perhaps with an
exclamation mark, and a greater-than sign, or as much of it as there is before
the text ends. -/
def afterCommentEnd? : Text → Option Text
  | '-' :: '-' :: '>' :: rest => some rest
  | '-' :: '-' :: '!' :: '>' :: rest => some rest
  | ['-'] | ['-', '-'] | ['-', '-', '!'] => some []
  | _ => none

/-- The content of a comment and what follows it. -/
def commentBody : Text → Text × Text
  | [] => ([], [])
  | c :: rest =>
    match afterCommentEnd? (c :: rest) with
    | some after => ([], after)
    | none => let (body, after) := commentBody rest; (c :: body, after)

/-- The content of a comment of which the opening hyphens have been read, and
what follows it. -/
def commentAt : Text → Text × Text
  | '>' :: rest => ([], rest)
  | '-' :: '>' :: rest => ([], rest)
  | rest => commentBody rest

/-- The text before the next greater-than sign, and what follows the sign. -/
def untilGreater (text : Text) : Text × Text :=
  (Text.cut? '>' text).getD (text, [])

/-! ## Tags -/

/-- Whether a character ends the name of a tag. -/
def endsTagName (c : Char) : Bool :=
  isAsciiBlank c || c == '/' || c == '>'

/-- Whether a character ends the name of an attribute. -/
def endsAttributeName (c : Char) : Bool :=
  endsTagName c || c == '='

/-- Whether a character ends a value without quotes. -/
def endsBareValue (c : Char) : Bool :=
  isAsciiBlank c || c == '>'

/-- The value of an attribute after its equals sign, and what follows it; none if
its quote is not closed. -/
def value? (text : Text) : Option (Text × Text) :=
  match text.dropWhile isAsciiBlank with
  | '"' :: rest => Text.cut? '"' rest
  | '\'' :: rest => Text.cut? '\'' rest
  | rest => some (rest.takeWhile (!endsBareValue ·), rest.dropWhile (!endsBareValue ·))

/-- An attribute at the front of a text, and what follows it. -/
def attribute? (text : Text) : Option ((Text × Text) × Text) :=
  let (first, others) := text.splitAt 1
  let name := first ++ others.takeWhile (!endsAttributeName ·)
  let rest := others.dropWhile (!endsAttributeName ·)
  let name := Text.asciiLower (replaceNulls name)
  match rest.dropWhile isAsciiBlank with
  | '=' :: after =>
    (value? after).map fun (value, after) =>
      ((name, resolve true (replaceNulls value)), after)
  | _ => some ((name, []), rest)

/-- The attributes of a tag and what follows the tag; none if the tag has no end.
Every attribute takes at least one character, so the length of the text bounds
their number. -/
def attributes? : Nat → Text → Option (List (Text × Text) × Text)
  | 0, _ => none
  | fuel + 1, input =>
    match input.dropWhile fun c => isAsciiBlank c || c == '/' with
    | [] => none
    | '>' :: rest => some ([], rest)
    | rest =>
      match attribute? rest with
      | none => none
      | some (first, rest) =>
        (attributes? fuel rest).map fun (others, rest) => (first :: others, rest)

/-- Attributes of which each name counts only once, the first time. -/
def firstOfEach : List (Text × Text) → List (Text × Text)
  | [] => []
  | (name, value) :: rest => (name, value) :: (firstOfEach rest).filter (·.1 != name)

/-- A tag whose opening sign has been read: its name, its attributes and what
follows it; none if it has no end. -/
def tag? (text : Text) : Option (Text × List (Text × Text) × Text) :=
  let name := Text.asciiLower (replaceNulls (text.takeWhile (!endsTagName ·)))
  (attributes? (text.length + 1) (text.dropWhile (!endsTagName ·))).map
    fun (attributes, rest) => (name, firstOfEach attributes, rest)

/-! ## Content that is not markup -/

/-- Whether an end tag of a given name stands at the front of a text. -/
def startsWithEnd (tag : Text) : Text → Bool
  | '<' :: '/' :: rest =>
    Text.equalsIgnoringCase tag (rest.take tag.length)
      && (rest.drop tag.length).head?.any endsTagName
  | _ => false

/-- The text before the end tag of a given name, and the text from it on. -/
def untilEnd (tag : Text) : Text → Text × Text
  | [] => ([], [])
  | c :: rest =>
    if startsWithEnd tag (c :: rest) then ([], c :: rest)
    else let (content, after) := untilEnd tag rest; (c :: content, after)

/-- The text after an end tag, of which it begins with one. -/
def afterEnd (text : Text) : Text :=
  match tag? (text.drop 2) with
  | some (_, _, rest) => rest
  | none => []

/-! ## One token -/

/-- Whether a character begins the name of a tag. -/
def startsTagName (c : Char) : Bool :=
  c.isAlpha

/-- The token of a start tag, together with its content if that is not markup, and
what follows it. -/
def element (tag : Text) (attributes : List (Text × Text)) (rest : Text) : Token × Text :=
  let trimFirst := if dropsFirstLineFeed tag then dropLineFeed else id
  match contentModel tag with
  | .markup => (opens tag attributes, trimFirst rest)
  | .textOnly =>
    let (content, after) := untilEnd tag rest
    (whole tag attributes (resolve false (replaceNulls (trimFirst content))), afterEnd after)
  | .raw =>
    let (content, after) := untilEnd tag rest
    (whole tag attributes (replaceNulls content), afterEnd after)
  | .rest => (whole tag attributes (replaceNulls rest), [])

/-- The document type whose keyword has been read. -/
def doctypeOf (text : Text) : Token :=
  doctype (Text.asciiLower
    (replaceNulls ((text.dropWhile isAsciiBlank).takeWhile (!isAsciiBlank ·))))

/-- What a less-than sign and an exclamation mark begin. -/
def declaration (text : Text) : Token × Text :=
  match text with
  | '-' :: '-' :: rest =>
    let (body, after) := commentAt rest
    (comment (replaceNulls body), after)
  | _ =>
    if Text.equalsIgnoringCase (text.take 7) "doctype".toList then
      let (body, after) := untilGreater (text.drop 7)
      (doctypeOf body, after)
    else
      let (body, after) := untilGreater text
      (comment (replaceNulls body), after)

/-- The tokens at the front of a text, one at most, and what follows them. -/
def next : Text → List Token × Text
  | '<' :: '!' :: rest => let (token, after) := declaration rest; ([token], after)
  | '<' :: '?' :: rest =>
    let (body, after) := untilGreater rest
    ([comment (replaceNulls ('?' :: body))], after)
  | '<' :: '/' :: '>' :: rest => ([], rest)
  | '<' :: '/' :: c :: rest =>
    if startsTagName c then
      match tag? (c :: rest) with
      | some (tag, _, after) => ([closes tag], after)
      | none => ([], [])
    else
      let (body, after) := untilGreater (c :: rest)
      ([comment (replaceNulls body)], after)
  | '<' :: c :: rest =>
    if startsTagName c then
      match tag? (c :: rest) with
      | some (tag, attributes, after) =>
        let (token, after) := element tag attributes after
        ([token], after)
      | none => ([], [])
    else ([text ['<']], c :: rest)
  | '<' :: rest => ([text ['<']], rest)
  | all =>
    ([text (resolve false (dropNulls (all.takeWhile (· != '<'))))], all.dropWhile (· != '<'))

/-- The tokens of a text of which at most `fuel` are looked for. -/
def scanWithin : Nat → Text → List Token
  | 0, _ => []
  | _ + 1, [] => []
  | fuel + 1, c :: rest =>
    let (tokens, after) := next (c :: rest)
    tokens ++ scanWithin fuel after

/-- The tokens of a text.  Every token takes at least one character, so the length
of the text bounds their number. -/
def scan (text : Text) : List Token :=
  let text := unifyLineEnds (dropMark text)
  scanWithin (text.length + 1) text

end Token

end Polyglot.Markup
