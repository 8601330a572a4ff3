import Polyglot.Text.Blank
import Polyglot.Text.Word

/-!
# Assignments

A line of an environment file is blank, a comment, or the assignment of a value
to a name.  A value may be quoted: between single quotes everything stands for
itself, between double quotes a backslash takes the meaning from the character
behind it.  Outside single quotes a dollar sign asks for the value of a variable,
whose name is a run of letters and digits or stands between braces.  A value
ends at the first blank outside quotes; only a comment may follow.
-/

set_option autoImplicit false

namespace Polyglot

/-- A value given to a name; a value that is left out is not there. -/
structure Assignment where
  name : Text
  value? : Option Text
  deriving DecidableEq, Repr

namespace Assignment

/-! ## Values -/

/-- What the next character of a value is read as. -/
inductive Mode where
  | plain
  /-- Behind a backslash. -/
  | escaped
  /-- Between single quotes. -/
  | quoted
  /-- In a name behind a dollar sign. -/
  | name (soFar : Text)
  /-- In a name between braces. -/
  | bracedName (soFar : Text)
  /-- Behind the end of the value. -/
  | ended
  deriving DecidableEq, Repr

/-- The character that an escaped character stands for. -/
def escaped? (c : Char) : Option Char :=
  if c == '\\' || c == '\'' || c == '"' || c == '$' || c == ' ' then some c
  else if c == 'n' then some '\n'
  else none

/-- The value that is written from some character on.  `within` says whether that
character is between double quotes, and `look` gives the values of variables. -/
def valueFrom? (look : Text → Text) : Mode → Bool → Text → Option Text
  | .plain, within, [] => if within then none else some []
  | .escaped, within, [] => if within then none else some []
  | .name soFar, within, [] => if within then none else some (look soFar)
  | .ended, _, [] => some []
  | .quoted, _, [] => none
  | .bracedName _, _, [] => none
  | .ended, within, c :: rest =>
    if c == ' ' || c == '\t' then valueFrom? look .ended within rest
    else if c == '#' then some []
    else none
  | .escaped, within, c :: rest =>
    match escaped? c with
    | some meant => (valueFrom? look .plain within rest).map (meant :: ·)
    | none => none
  | .quoted, within, c :: rest =>
    if c == '\'' then valueFrom? look .plain within rest
    else (valueFrom? look .quoted within rest).map (c :: ·)
  | .name soFar, within, c :: rest =>
    if isWordChar c then valueFrom? look (.name (soFar ++ [c])) within rest
    else if c == '\x7b' && soFar.isEmpty then valueFrom? look (.bracedName []) within rest
    else if c == '$' then (valueFrom? look (.name []) within rest).map (look soFar ++ ·)
    else (valueFrom? look .plain within rest).map fun value => look soFar ++ c :: value
  | .bracedName soFar, within, c :: rest =>
    if c == '\x7d' then (valueFrom? look .plain within rest).map (look soFar ++ ·)
    else valueFrom? look (.bracedName (soFar ++ [c])) within rest
  | .plain, within, c :: rest =>
    if c == '$' then valueFrom? look (.name []) within rest
    else if c == '\\' then valueFrom? look .escaped within rest
    else if c == '"' then valueFrom? look .plain (!within) rest
    else if within then (valueFrom? look .plain within rest).map (c :: ·)
    else if c == '\'' then valueFrom? look .quoted within rest
    else if c == ' ' || c == '\t' then valueFrom? look .ended within rest
    else (valueFrom? look .plain within rest).map (c :: ·)

/-! ## Lines -/

/-- The characters that a name may begin with. -/
def beginsName (c : Char) : Bool :=
  c.isAlpha || c == '_'

/-- The characters that a name may go on with. -/
def continuesName (c : Char) : Bool :=
  c.isAlphanum || c == '_' || c == '.'

/-- A name at the front of a text and the text behind it without blanks. -/
def name? : Text → Option (Text × Text)
  | [] => none
  | c :: rest =>
    if beginsName c then
      some (c :: rest.takeWhile continuesName, Text.trimStart (rest.dropWhile continuesName))
    else none

/-- The name that a line assigns to, and the text behind the equals sign without
blanks.  The word `export` may stand before the name. -/
def target? (line : Text) : Option (Text × Text) :=
  match name? line with
  | none => none
  | some (name, '=' :: rest) => some (name, Text.trimStart rest)
  | some (name, rest) =>
    if name == "export".toList then
      match name? rest with
      | some (name, '=' :: rest) => some (name, Text.trimStart rest)
      | _ => none
    else none

/-- Whether nothing is written on a line but perhaps a comment. -/
def isVoid (line : Text) : Bool :=
  match line with
  | [] => true
  | c :: _ => c == '#'

/-- The assignment on a line, if there is one; none at all if the line is neither
an assignment nor void. -/
def ofLine? (look : Text → Text) (line : Text) : Option (Option Assignment) :=
  let line := Text.trim line
  if isVoid line then some none
  else
    match target? line with
    | none => none
    | some (name, written) =>
      if isVoid written then some (some ⟨name, none⟩)
      else (valueFrom? look .plain false written).map fun value => some ⟨name, some value⟩

end Assignment

end Polyglot
