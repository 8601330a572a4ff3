import Polyglot.Files.Path
import Polyglot.Pairs.Basic
import Polyglot.Text.Blank

/-!
# The environment

Variables with values, and the five of them that say how pages are localized.
What one of the five holds is a setting only if it fits the variable; if it does
not, `VariableFault` says why.

The home directory is what the variable for it says.  Where that is unset or
empty a system may know of one all the same, from its list of accounts; here it
knows of none then.
-/

set_option autoImplicit false

namespace Polyglot

/-- Variables with their values. -/
structure Environment where
  entries : List (Text × Text)
  deriving DecidableEq, Repr

namespace Environment

/-- The value of a variable. -/
def get? (environment : Environment) (name : Text) : Option Text :=
  environment.entries.lookup name

/-- An environment in which a variable has a value: the one it had, if it had one
before. -/
def setDefault (environment : Environment) (name value : Text) : Environment :=
  ⟨Pairs.setDefault name value environment.entries⟩

/-- The home directory; an empty path is none. -/
def home? (environment : Environment) : Option Path :=
  (environment.get? "HOME".toList).filter fun path => !path.isEmpty

end Environment

/-! ## Log levels -/

/-- How much is logged. -/
inductive LogLevel where
  | trace
  | debug
  | info
  | warn
  | error
  deriving DecidableEq, Repr

namespace LogLevel

/-- The name of a level. -/
def name : LogLevel → Text
  | trace => "trace".toList
  | debug => "debug".toList
  | info => "info".toList
  | warn => "warn".toList
  | error => "error".toList

/-- All levels. -/
def all : List LogLevel := [trace, debug, info, warn, error]

/-- The level of a name. -/
def ofName? (name : Text) : Option LogLevel :=
  all.find? fun level => level.name == name

end LogLevel

/-! ## Variables -/

/-- A variable that says something about the work. -/
inductive Variable where
  | logLevel
  | language
  | htmlLanguage
  | fallback
  /-- The path to the catalog. -/
  | catalog
  deriving DecidableEq, Repr

namespace Variable

/-- The name of a variable in the environment. -/
def name : Variable → Text
  | logLevel => "I18N_DOM_LOG_LEVEL".toList
  | language => "I18N_DOM_LANGUAGE".toList
  | htmlLanguage => "I18N_DOM_HTML_LANGUAGE".toList
  | fallback => "I18N_DOM_FALLBACK_LNG".toList
  | catalog => "I18N_DOM_RESOURCE".toList

/-- What a variable is for. -/
def description : Variable → Text
  | logLevel => "Log level: trace, debug, info, warn, error".toList
  | language => "Target language code, e.g. 'es' or 'zh-CN'".toList
  | htmlLanguage => "Language the document is authored in (overrides <html lang>)".toList
  | fallback => "Language used when the requested one is not in the resource table".toList
  | catalog => "Path to the JSON resource table".toList

/-- All variables. -/
def all : List Variable := [logLevel, language, htmlLanguage, fallback, catalog]

/-- The width of the column of names in the help on variables. -/
def nameWidth : Nat := 24

/-- The line of a variable in the help. -/
def helpLine (var : Variable) : Text :=
  "  ".toList ++ var.name
    ++ List.replicate (nameWidth - var.name.length) ' '
    ++ ' ' :: var.description ++ ['\n']

/-- The help on variables. -/
def help : Text :=
  "Environment variables:\n".toList ++ all.flatMap helpLine

end Variable

/-- Why a variable gives no setting. -/
inductive VariableFault where
  | notSet
  | unknownLevel (value : Text)
  | noLanguage
  | badLanguage (tag : Text)
  | noPath
  deriving DecidableEq, Repr

namespace VariableFault

/-- What is wrong. -/
def reason : VariableFault → Text
  | notSet => "Required environment variable not set".toList
  | unknownLevel value =>
    "Invalid log level '".toList ++ value ++ "'. Use: trace, debug, info, warn, error".toList
  | noLanguage => "Language code cannot be empty".toList
  | badLanguage tag => "Invalid language code '".toList ++ tag ++ ['\'']
  | noPath => "Path cannot be empty".toList

/-- The message on a variable with a fault. -/
def message (fault : VariableFault) (var : Variable) : Text :=
  "Environment variable '".toList ++ var.name ++ "': ".toList ++ fault.reason

end VariableFault

/-! ## Values of variables -/

/-- The characters that a language tag is made of. -/
def isTagChar (c : Char) : Bool :=
  c.isAlphanum || c == '-' || c == '_'

/-- The language that a value names. -/
def languageOf (value : Text) : Except VariableFault Text :=
  let tag := Text.trim value
  if tag.isEmpty then .error .noLanguage
  else if tag.all isTagChar then .ok tag
  else .error (.badLanguage tag)

/-- The level that a value names, in letters of any case. -/
def levelOf (value : Text) : Except VariableFault Text :=
  match LogLevel.ofName? (Text.asciiLower (Text.trim value)) with
  | some level => .ok level.name
  | none => .error (.unknownLevel value)

/-- The path that a value gives. -/
def pathOf (home? : Option Path) (value : Text) : Except VariableFault Text :=
  let path := Text.trim value
  if path.isEmpty then .error .noPath else .ok (Path.fromHome home? path)

namespace Environment

/-- The setting that a value of a variable gives. -/
def interpret (environment : Environment) (var : Variable) (value : Text) :
    Except VariableFault Text :=
  match var with
  | .logLevel => levelOf value
  | .language | .htmlLanguage | .fallback => languageOf value
  | .catalog => pathOf environment.home? value

/-- The setting that a variable gives, and none if it is not set. -/
def optional (environment : Environment) (var : Variable) :
    Except VariableFault (Option Text) :=
  match environment.get? var.name with
  | none => .ok none
  | some value => (environment.interpret var value).map some

/-- The setting that a variable gives.  Only the log level has one without being
set. -/
def require (environment : Environment) (var : Variable) : Except VariableFault Text :=
  match environment.get? var.name, var with
  | some value, _ => environment.interpret var value
  | none, .logLevel => .ok LogLevel.info.name
  | none, _ => .error .notSet

/-- The setting that a variable gives, or else a default. -/
def getOr (environment : Environment) (var : Variable) (default : Text) : Text :=
  match environment.require var with
  | .ok setting => setting
  | .error _ => default

/-- The setting that a variable gives, if it gives one. -/
def setting? (environment : Environment) (var : Variable) : Option Text :=
  match environment.optional var with
  | .ok setting? => setting?
  | .error _ => none

end Environment

end Polyglot
