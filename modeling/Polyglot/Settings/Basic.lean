import Polyglot.Json.Form

/-!
# Settings as they are given

A setting is a value of a configuration file, whatever the format of the file:
a text, a list, a table, nothing, or some other value that no setting known here
can be.  A record of settings is given by a table of its fields, of which those
that are unknown do not matter, or by a list of its fields in order, of which
the last may be missing.
-/

set_option autoImplicit false

namespace Polyglot

/-- A value of a configuration file. -/
inductive Setting where
  | nothing
  /-- A truth value, a number, a date or the like. -/
  | other
  /-- A string; without a text it stands for none. -/
  | text (text? : Option Text)
  | list (items : List Setting)
  /-- Entries with their keys, in the order in which they are given. -/
  | table (entries : List (Option Text × Setting))
  deriving Inhabited

namespace Setting

/-! ## Records -/

/-- The entry of a table under a key, if there is one; none at all if there are
several. -/
def valueOf? (entries : List (Option Text × Setting)) (key : Text) : Option (Option Setting) :=
  match entries.filter fun entry => entry.1 == some key with
  | [] => some none
  | [(_, setting)] => some (some setting)
  | _ => none

/-- The settings of the fields of a record that are given, in the order of the
fields. -/
def fields? (names : List Text) : Setting → Option (List (Option Setting))
  | table entries =>
    if entries.all fun entry => entry.1.isSome then names.mapM (valueOf? entries) else none
  | list items =>
    if items.length ≤ names.length then
      some (items.map some ++ List.replicate (names.length - items.length) none)
    else none
  | _ => none

/-! ## Single values -/

/-- A text. -/
def text? : Setting → Option Text
  | text content? => content?
  | _ => none

/-- A text or nothing. -/
def optionalText? : Setting → Option (Option Text)
  | nothing => some none
  | text content? => content?.map some
  | _ => none

/-- One of several things with names: a text that names it, or a table that has
only its name for a key, with nothing there. -/
def choice? {α : Type} (choices : List (Text × α)) : Setting → Option α
  | text content? => content?.bind fun name => choices.lookup name
  | table [(key?, nothing)] => key?.bind fun name => choices.lookup name
  | _ => none

/-- A list of things. -/
def listOf? {α : Type} (read? : Setting → Option α) : Setting → Option (List α)
  | list items => items.mapM read?
  | _ => none

/-- A field that has a default. -/
def given? {α : Type} (default : α) (read? : Setting → Option α) : Option Setting → Option α
  | none => some default
  | some setting => read? setting

end Setting

/-! ## Settings written in JSON -/

namespace JsonForm

mutual

/-- A JSON value as a setting. -/
def toSetting : JsonForm → Setting
  | .null => .nothing
  | .bool _ => .other
  | .number _ => .other
  | .string content? => .text content?
  | .array items => .list (itemSettings items)
  | .object members => .table (memberSettings members)

/-- The items of an array as settings. -/
def itemSettings : List JsonForm → List Setting
  | [] => []
  | item :: rest => toSetting item :: itemSettings rest

/-- The members of an object as entries of a table. -/
def memberSettings : List (Option Text × JsonForm) → List (Option Text × Setting)
  | [] => []
  | (key?, member) :: rest => (key?, toSetting member) :: memberSettings rest

end

end JsonForm

end Polyglot
