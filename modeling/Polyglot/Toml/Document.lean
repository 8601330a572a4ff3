import Polyglot.Toml.Lexical
import Polyglot.Toml.Table

/-!
# TOML documents

A document is a sequence of statements, each on a line of its own: headers, which
open the table that the following values go into, and values under keys.
`Toml.read?` gives the table of the whole as a setting, for a text that is a
document throughout.
-/

set_option autoImplicit false

namespace Polyglot.Toml

/-! ## Values

The fuel bounds the number of steps.  Every step takes at least one character, so
the length of the text is enough. -/

mutual

/-- A value at the front of a text. -/
def value? : Nat → Text → Option (Setting × Text)
  | 0, _ => none
  | fuel + 1, text =>
    match text with
    | '[' :: rest => (items? fuel rest).map fun (items, rest) => (.list items, rest)
    | '\x7b' :: rest =>
      match skipGaps rest with
      | '\x7d' :: rest => some (.table [], rest)
      | rest =>
        (members? fuel rest []).map fun (entries, rest) => (.table (settings entries), rest)
    | '"' :: _ | '\'' :: _ =>
      (string? text).map fun (content, rest) => (.text (some content), rest)
    | _ => scalar? text

/-- The items of a list up to its closing bracket. -/
def items? : Nat → Text → Option (List Setting × Text)
  | 0, _ => none
  | fuel + 1, text => do
    let rest ← skipLines? false text
    match rest with
    | ']' :: rest => some ([], rest)
    | _ =>
      let (item, rest) ← value? fuel rest
      let rest ← skipLines? false rest
      match rest with
      | ']' :: rest => some ([item], rest)
      | ',' :: rest =>
        let (items, rest) ← items? fuel rest
        some (item :: items, rest)
      | _ => none

/-- The members of a table between braces, at least one, up to its closing brace,
added to entries that were read before. -/
def members? : Nat → Text → Entries → Option (Entries × Text)
  | 0, _, _ => none
  | fuel + 1, text, entries => do
    let (path, key, rest) ← keys? (text.length + 1) text
    match rest with
    | '=' :: rest =>
      let (setting, rest) ← value? fuel (skipGaps rest)
      let entries ← assign path key setting entries
      match skipGaps rest with
      | '\x7d' :: rest => some (entries, rest)
      | ',' :: rest => members? fuel rest entries
      | _ => none
    | _ => none

end

/-! ## Statements -/

/-- A statement of a document. -/
inductive Statement where
  /-- A header that opens a table. -/
  | table (path : List Text) (key : Text)
  /-- A header that opens the next table of a list. -/
  | next (path : List Text) (key : Text)
  /-- A value under a key. -/
  | value (path : List Text) (key : Text) (setting : Setting)

/-- The statement on the first line of a text, and the text from the next line
on. -/
def statement? (text : Text) : Option (Statement × Text) :=
  match text with
  | '[' :: '[' :: rest => do
    let (path, key, rest) ← keys? (rest.length + 1) rest
    let rest ← Text.after? [']', ']'] rest
    let rest ← nextLine? rest
    some (.next path key, rest)
  | '[' :: rest => do
    let (path, key, rest) ← keys? (rest.length + 1) rest
    let rest ← Text.after? [']'] rest
    let rest ← nextLine? rest
    some (.table path key, rest)
  | _ => do
    let (path, key, rest) ← keys? (text.length + 1) text
    let rest ← Text.after? ['='] rest
    let rest := skipGaps rest
    let (setting, rest) ← value? (rest.length + 1) rest
    let rest ← nextLine? rest
    some (.value path key setting, rest)

/-- The statements of a text.  The fuel bounds the number of lines. -/
def statements? : Nat → Text → Option (List Statement)
  | 0, _ => none
  | fuel + 1, text =>
    match skipGaps text with
    | [] => some []
    | text =>
      match nextLine? text with
      | some rest => statements? fuel rest
      | none => do
        let (statement, rest) ← statement? text
        let others ← statements? fuel rest
        some (statement :: others)

/-! ## The whole -/

/-- The entries of the whole after some statements, of which the first are about
the table at a path. -/
def entriesAfter? : List Text → Entries → List Statement → Option Entries
  | _, entries, [] => some entries
  | current, entries, .value path key setting :: rest => do
    let entries ←
      changeAt false (fun _ inner => assign path key setting inner) current .opened entries
    entriesAfter? current entries rest
  | _, entries, .table path key :: rest => do
    let entries ← changeAt false (fun _ inner => openTable key inner) path .opened entries
    entriesAfter? (path ++ [key]) entries rest
  | _, entries, .next path key :: rest => do
    let entries ← changeAt false (fun _ inner => openNext key inner) path .opened entries
    entriesAfter? (path ++ [key]) entries rest

/-- A text without the mark of its byte order. -/
def withoutMark : Text → Text
  | '\uFEFF' :: rest => rest
  | text => text

/-- The table that a document writes. -/
def read? (text : Text) : Option Setting := do
  let text := withoutMark text
  let statements ← statements? (text.length + 1) text
  let entries ← entriesAfter? [] [] statements
  some (.table (settings entries))

end Polyglot.Toml
