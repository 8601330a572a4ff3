import Polyglot.Settings.Basic

/-!
# Tables of a TOML document

A document opens tables by their headers and puts values under keys, and a key
may lead through further tables.  `Toml.Item` keeps apart how a table came to be
there, since that decides what may still be done with it: a table can be opened
only once, and keys that lead through tables neither reach into one that was
opened elsewhere nor let one be opened that they have made.
-/

set_option autoImplicit false

namespace Polyglot.Toml

/-- How a table came to be there. -/
inductive Origin where
  /-- It was opened by a header, or it is the table of the whole. -/
  | opened
  /-- A header named a table inside it. -/
  | implied
  /-- A key led through it. -/
  | keyed
  deriving DecidableEq, Repr

/-- What is under a key while the document is being read. -/
inductive Item where
  | value (setting : Setting)
  | table (origin : Origin) (entries : List (Text × Item))
  /-- A list of tables: those that are finished, and the entries of the last. -/
  | tables (finished : List Setting) (entries : List (Text × Item))

/-- The entries of a table. -/
abbrev Entries : Type := List (Text × Item)

mutual

/-- What is under a key, as a setting. -/
def Item.toSetting : Item → Setting
  | .value setting => setting
  | .table _ entries => .table (settings entries)
  | .tables finished entries => .list (finished ++ [.table (settings entries)])

/-- The entries of a table, as settings. -/
def settings : List (Text × Item) → List (Option Text × Setting)
  | [] => []
  | (key, item) :: rest => (some key, item.toSetting) :: settings rest

end

/-- Entries with the item of a key set. -/
def setItem (key : Text) (item : Item) : Entries → Entries
  | [] => [(key, item)]
  | (other, old) :: rest =>
    if other = key then (other, item) :: rest else (other, old) :: setItem key item rest

/-- Entries in which the table at the end of a path has been changed.  Tables that
are missing on the way are made.  A path of keys reaches into no table that was
opened by a header. -/
def changeAt (ofKeys : Bool) (change : Origin → Entries → Option Entries) :
    List Text → Origin → Entries → Option Entries
  | [], origin, entries => change origin entries
  | key :: path, _, entries =>
    match entries.lookup key with
    | none =>
      let origin := if ofKeys then Origin.keyed else .implied
      (changeAt ofKeys change path origin []).map fun inner =>
        setItem key (.table origin inner) entries
    | some (.table origin inner) =>
      if ofKeys && origin == .opened then none
      else
        (changeAt ofKeys change path origin inner).map fun inner =>
          setItem key (.table origin inner) entries
    | some (.tables finished inner) =>
      (changeAt ofKeys change path .opened inner).map fun inner =>
        setItem key (.tables finished inner) entries
    | some (.value _) => none

/-- Entries with a value under a key that has none yet. -/
def addValue (key : Text) (setting : Setting) (entries : Entries) : Option Entries :=
  if (entries.lookup key).isSome then none else some (entries ++ [(key, .value setting)])

/-- The entries of a table after a value has been put under the last of several
keys, those before it leading through tables.  If there are any, the last of the
tables must have been made by such keys. -/
def assign (path : List Text) (key : Text) (setting : Setting) (entries : Entries) :
    Option Entries :=
  changeAt true
    (fun origin inner =>
      if path.isEmpty || origin == .keyed then addValue key setting inner else none)
    path .opened entries

/-- Entries in which a table has been opened under a key. -/
def openTable (key : Text) (entries : Entries) : Option Entries :=
  match entries.lookup key with
  | none => some (entries ++ [(key, .table .opened [])])
  | some (.table .implied inner) => some (setItem key (.table .opened inner) entries)
  | some _ => none

/-- Entries in which the next table of a list has been opened under a key. -/
def openNext (key : Text) (entries : Entries) : Option Entries :=
  match entries.lookup key with
  | none => some (entries ++ [(key, .tables [] [])])
  | some (.tables finished last) =>
    some (setItem key (.tables (finished ++ [.table (settings last)]) []) entries)
  | some _ => none

end Polyglot.Toml
