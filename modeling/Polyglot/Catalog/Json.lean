import Polyglot.Catalog.Basic

/-!
# Catalogs written in JSON

A catalog is written as an object whose members are arrays of strings, one for
each language, in the order of the languages.  `Catalog.ofJson` accepts exactly
the non-empty objects of that shape; otherwise it names the first thing in
reading order that does not fit.
-/

set_option autoImplicit false

namespace Polyglot.Catalog

/-- The strings of an array of which `index` items have been read. -/
def phrasesFrom (language : Text) (index : Nat) : List Json → Except Problem (List Text)
  | [] => .ok []
  | .string text :: rest => (phrasesFrom language (index + 1) rest).map (text :: ·)
  | item :: _ => .error (.itemNotAString language index item)

/-- The languages and phrases of an object's members. -/
def entriesOf : List (Text × Json) → Except Problem (List (Text × List Text))
  | [] => .ok []
  | (language, .array items) :: rest =>
    match phrasesFrom language 0 items with
    | .error problem => .error problem
    | .ok phrases => (entriesOf rest).map ((language, phrases) :: ·)
  | (language, _) :: _ => .error (.entryNotAnArray language)

/-- The catalog that a JSON value writes. -/
def ofJson : Json → Except Problem Catalog
  | .object members => do
    let entries ← entriesOf members
    let catalog := ofList entries
    catalog.validate
    return catalog
  | _ => .error .tableNotAnObject

/-- The catalog that a text writes. -/
def read (text : Text) : Except Problem Catalog :=
  match Json.read? text with
  | none => .error .malformedJson
  | some value => ofJson value

end Polyglot.Catalog
