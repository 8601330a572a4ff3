import Polyglot.Catalog.Basic
import Polyglot.Directive.Scan
import Polyglot.Text.Replace

/-!
# Reading a text for its phrase

A text is localized by way of the phrase that it is looked up by.  The
directives of a text stand in it or, where it has none, in the comment after it,
which then is its carrier.  `Reading.of` takes a text and its carrier apart into
phrase, directives and the tail that is to become the new carrier;
`Reading.localized` says what the text is to be, given the counterparts of
phrases.

Directives in the text leave the phrase as it was written, with placeholders in
it.  Directives in a carrier belong to a text whose placeholders were filled
before, so the values are exchanged for their placeholders first.
-/

set_option autoImplicit false

namespace Polyglot

/-- What became of a text. -/
inductive Outcome where
  /-- The counterpart of its phrase was found. -/
  | localized
  /-- There is no counterpart. -/
  | missed
  /-- The text is exempt. -/
  | ignored
  deriving DecidableEq, Repr

/-- A text taken apart. -/
structure Reading where
  /-- What the text is looked up by. -/
  phrase : Text
  directives : Directives
  /-- The directives of the text itself as they stand. -/
  tail? : Option Text
  deriving DecidableEq, Repr

namespace Reading

/-- A text with the values of data pairs exchanged for their placeholders. -/
def withPlaceholders (pairs : List DataPair) (text : Text) : Text :=
  (pairs.filter fun pair => !pair.value.isEmpty).foldl
    (fun text pair => Text.replaceAll pair.value pair.placeholder text) text

/-- A text with the placeholders of data pairs exchanged for their values. -/
def withValues (pairs : List DataPair) (text : Text) : Text :=
  pairs.foldl (fun text pair => Text.replaceAll pair.placeholder pair.value text) text

/-- A text and the carrier after it, taken apart. -/
def of (text : Text) (carrier? : Option Text) : Reading :=
  let inline := Directives.read text
  if inline.present then
    ⟨inline.baseText text ++ inline.keySuffix, inline, inline.tail? text⟩
  else
    match carrier? with
    | some comment =>
      let carried := Directives.read comment
      ⟨withPlaceholders carried.data text ++ carried.keySuffix, carried, none⟩
    | none => ⟨text, Directives.none, none⟩

/-- What the text is to be before its placeholders are filled, and what became of
it.  Markers end what is kept, of a phrase or of its counterpart. -/
def chosen (reading : Reading) (counterpart? : Text → Option Text) : Text × Outcome :=
  if reading.directives.ignored then (Directive.strip reading.phrase, .ignored)
  else
    match counterpart? reading.phrase with
    | some counterpart => (Directive.strip counterpart, .localized)
    | none => (Directive.strip reading.phrase, .missed)

/-- What the text is to be, and what became of it. -/
def localized (reading : Reading) (counterpart? : Text → Option Text) : Text × Outcome :=
  let (text, outcome) := reading.chosen counterpart?
  (withValues reading.directives.data text, outcome)

end Reading

end Polyglot
