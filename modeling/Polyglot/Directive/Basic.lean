import Polyglot.Text.Blank

/-!
# Directives

A directive is a note to the localizer that an author leaves inside a text or
in the comment after it.  A key directive tells equal texts apart, a data
directive carries a `name=value` pair that fills a placeholder, and an ignore
directive exempts the whole text.  `Directives` collects what all the
directives of one text say together.
-/

set_option autoImplicit false

namespace Polyglot

/-- What a directive is for. -/
inductive DirectiveKind where
  /-- Text that is appended to the lookup key. -/
  | key
  /-- A name and a value that fills its placeholder. -/
  | data
  /-- The text is left alone. -/
  | ignore
  deriving DecidableEq, Repr

namespace DirectiveKind

/-- The kind that a tag stands for; each has a long and a short tag. -/
def ofTag? (tag : Text) : Option DirectiveKind :=
  if tag = ['K', 'E', 'Y'] ∨ tag = ['K'] then some .key
  else if tag = ['D', 'A', 'T', 'A'] ∨ tag = ['D'] then some .data
  else if tag = ['I', 'G', 'N', 'O', 'R', 'E'] ∨ tag = ['I'] then some .ignore
  else none

end DirectiveKind

/-- A value together with the name of the placeholder that it fills. -/
structure DataPair where
  name : Text
  value : Text
  deriving DecidableEq, Repr

namespace DataPair

/-- What stands in a table entry where the value belongs. -/
def placeholder (pair : DataPair) : Text :=
  '%' :: pair.name ++ ['%']

/-- The pair that a payload writes: the name before the first equals sign,
trimmed and not empty, and the value after it as it stands. -/
def ofPayload? (payload : Text) : Option DataPair :=
  match Text.cut? '=' payload with
  | none => none
  | some (name, value) =>
    if (Text.trim name).isEmpty then none else some ⟨Text.trim name, value⟩

end DataPair

/-- One directive as it stands in a text. -/
structure Directive where
  tag : Text
  payload : Text
  /-- Everything from the leading blank to the end of the payload. -/
  whole : Text
  deriving DecidableEq, Repr

namespace Directive

/-- The kind of a directive, if its tag is a known one. -/
def kind? (directive : Directive) : Option DirectiveKind :=
  DirectiveKind.ofTag? directive.tag

end Directive

/-- What the directives of one text say together. -/
structure Directives where
  /-- Whether there are any. -/
  present : Bool
  /-- Whether the text is exempt. -/
  ignored : Bool
  /-- The number of characters before the first one. -/
  start? : Option Nat
  data : List DataPair
  /-- The key directives, written one after the other. -/
  keySuffix : Text
  deriving DecidableEq, Repr

namespace Directives

/-- No directives at all. -/
def none : Directives := ⟨false, false, Option.none, [], []⟩

instance : Inhabited Directives := ⟨Directives.none⟩

/-- The readable part of a text, before its first directive. -/
def baseText (directives : Directives) (text : Text) : Text :=
  match directives.start? with
  | some start => text.take start
  | Option.none => text

/-- The part of a text from its first directive on. -/
def tail? (directives : Directives) (text : Text) : Option Text :=
  directives.start?.map text.drop

/-- The number of bytes before the first directive. -/
def byteOffset? (directives : Directives) (text : Text) : Option Nat :=
  directives.start?.map fun start => Text.byteLength (text.take start)

end Directives

end Polyglot
