import Polyglot.Catalog.File
import Polyglot.Configuration.Basic
import Polyglot.Environment.Load
import Polyglot.Toml.Document

/-!
# Configurations in files

A configuration file is written in TOML if its name says so, and otherwise in
JSON.  A path to a catalog in it leads from the directory that the file is in.
If no file is asked for, the first that is found in one of several places is
taken, and if none is found, nothing is settled.
-/

set_option autoImplicit false

namespace Polyglot

/-- What a configuration file is written in. -/
inductive ConfigurationFormat where
  | toml
  | json
  deriving DecidableEq, Repr

/-- The format of the file at a path. -/
def ConfigurationFormat.ofPath (path : Path) : ConfigurationFormat :=
  match path.extension? with
  | some extension => if Text.equalsIgnoringCase extension "toml".toList then toml else json
  | none => json

namespace Configuration

/-- The configuration that a text in some format writes. -/
def ofText (text : Text) : ConfigurationFormat → Except Problem Configuration
  | .toml =>
    match (Toml.read? text).bind read? with
    | some configuration => .ok configuration
    | none => .error .configMalformedToml
  | .json =>
    match (JsonForm.read? text).bind fun form => read? form.toSetting with
    | some configuration => .ok configuration
    | none => .error .configMalformedJson

/-- The configuration in a file. -/
def ofFile (files : Files) (path : Path) : Except Problem Configuration :=
  match files.readText path with
  | .error fault => .error (.configUnreadable fault.message)
  | .ok text => (ofText text (.ofPath path)).map (within path.directory)

/-- The paths that a configuration file is looked for at, in order. -/
def places : List Path :=
  ["i18n-dom.toml".toList, ".i18n-dom.toml".toList, "i18n-dom.json".toList,
    "~/.config/i18n-dom/config.toml".toList, "/etc/i18n-dom/config.toml".toList]

/-- The configuration file that is found. -/
def found? (files : Files) (environment : Environment) : Option Path :=
  (places.map (Path.fromHome environment.home?)).find? files.contains

/-- The path of the configuration file to be read, if there is one: the one that
is asked for, or else the one that is found. -/
def source? (files : Files) (environment : Environment) : Option Path → Option Path
  | some path => some (Path.fromHome environment.home? path)
  | none => found? files environment

/-- A configuration that is in force, and the file that it comes from. -/
structure Loaded where
  configuration : Configuration
  source? : Option Path
  deriving Repr

/-- The configuration that a path, if there is one, and the environment give. -/
def settle (files : Files) (environment : Environment) (source? : Option Path) :
    Except Problem Loaded := do
  let given ← match source? with
    | some path => ofFile files path
    | none => .ok default
  let configuration := given.overridden environment
  configuration.validate
  return ⟨configuration, source?⟩

/-- The configuration that is in force when a file is asked for, or none.  What
environment files say belongs to the environment. -/
def load (files : Files) (environment : Environment) (asked? : Option Path) :
    Except Problem Loaded :=
  let environment := environment.withFiles files
  settle files environment (source? files environment asked?)

/-- The catalog of a configuration. -/
def readCatalog (files : Files) (configuration : Configuration) : Except Problem Catalog :=
  match configuration.catalog? with
  | none => .error .configNamesNoTable
  | some path => Catalog.ofFile files path

end Configuration

end Polyglot
