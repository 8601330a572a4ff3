import Polyglot.Environment.Basic

/-!
# Command lines

The options of the command, their help, and what a line of arguments asks for.
An option has a long name and mostly a letter; its value is the next argument or
is attached to the name.  Letters may stand together behind one hyphen.  An
argument that begins with a hyphen is never a value, unless it is the hyphen
alone, and behind two hyphens nothing is an option.  Arguments are read from left
to right, and the first that asks for help or cannot be read decides.
-/

set_option autoImplicit false

namespace Polyglot

/-- An option of the command. -/
inductive CommandOption where
  | catalog
  | language
  | htmlLanguage
  | fallback
  | configuration
  | encoding
  | output
  | silent
  | help
  | version
  deriving DecidableEq, Repr

namespace CommandOption

/-- All options, in the order of the help. -/
def all : List CommandOption :=
  [catalog, language, htmlLanguage, fallback, configuration, encoding, output, silent, help,
    version]

/-- The long name of an option. -/
def name : CommandOption → Text
  | catalog => "resource".toList
  | language => "language".toList
  | htmlLanguage => "html-language".toList
  | fallback => "fallback".toList
  | configuration => "config".toList
  | encoding => "encoding".toList
  | output => "output".toList
  | silent => "silent".toList
  | help => "help".toList
  | version => "version".toList

/-- The letter of an option. -/
def letter? : CommandOption → Option Char
  | catalog => some 'r'
  | language => some 'l'
  | htmlLanguage => none
  | fallback => none
  | configuration => some 'c'
  | encoding => some 'e'
  | output => some 'o'
  | silent => some 's'
  | help => some 'h'
  | version => some 'V'

/-- What the help calls the value of an option that has one. -/
def valueName? : CommandOption → Option Text
  | catalog | configuration | output => some "FILE".toList
  | language | htmlLanguage | fallback => some "LANGUAGE".toList
  | encoding => some "ENCODING".toList
  | silent | help | version => none

/-- Whether the value of an option may be empty; a path to read from may not. -/
def allowsEmpty : CommandOption → Bool
  | catalog | configuration => false
  | _ => true

/-- What an option does. -/
def description : CommandOption → Text
  | catalog => "JSON resource table: \x7b\"en\": [...], \"es\": [...]\x7d".toList
  | language => "Target language".toList
  | htmlLanguage => "Language the document is written in (defaults to <html lang>)".toList
  | fallback => "Language used when the target is not in the resource table".toList
  | configuration => "Configuration file (TOML or JSON)".toList
  | encoding => "Input encoding; a charset declared in the document takes precedence".toList
  | output => "Output file, \x60-\x60 or absent writes to stdout".toList
  | silent => "Only log errors".toList
  | help => "Print help".toList
  | version => "Print version".toList

/-- The option of a long name. -/
def ofName? (name : Text) : Option CommandOption :=
  all.find? fun option => option.name == name

/-- The option of a letter. -/
def ofLetter? (letter : Char) : Option CommandOption :=
  all.find? fun option => option.letter? == some letter

/-! ## Help -/

/-- How an option is written. -/
def usage (option : CommandOption) : Text :=
  (match option.letter? with
    | some letter => '-' :: letter :: ", ".toList
    | none => "    ".toList)
    ++ "--".toList ++ option.name
    ++ match option.valueName? with
      | some valueName => " <".toList ++ valueName ++ ['>']
      | none => []

/-- The width of the column in which options are written. -/
def usageWidth : Nat :=
  (all.map fun option => option.usage.length).foldl max 0

/-- The line of an option in the help. -/
def helpLine (option : CommandOption) : Text :=
  "  ".toList ++ option.usage ++ List.replicate (usageWidth - option.usage.length) ' '
    ++ "  ".toList ++ option.description ++ ['\n']

end CommandOption

namespace Command

/-- The name of the command. -/
def name : Text := "i18n-dom".toList

/-- The name and the version of the command. -/
def versionText : Text := name ++ " 0.3.0\n".toList

/-- The help on the command. -/
def helpText : Text :=
  "Observer-driven in-place translation of text nodes in a live document tree\n\n".toList
    ++ "Usage: ".toList ++ name ++ " [OPTIONS] <INPUT>\n\n".toList
    ++ "Arguments:\n  <INPUT>  Input HTML file, \x60-\x60 reads from stdin\n\n".toList
    ++ "Options:\n".toList ++ CommandOption.all.flatMap CommandOption.helpLine
    ++ '\n' :: Variable.help

/-! ## Arguments -/

/-- What is asked to be done with a page. -/
structure Arguments where
  input : Path
  catalog? : Option Path
  language? : Option Text
  htmlLanguage? : Option Text
  fallback? : Option Text
  configuration? : Option Path
  encoding? : Option Text
  output? : Option Path
  silent : Bool
  deriving DecidableEq, Repr

/-- What a command line asks for. -/
inductive Invocation where
  | help
  | version
  /-- The line cannot be read. -/
  | misuse
  | localize (arguments : Arguments)
  deriving DecidableEq, Repr

/-- What has been given so far. -/
structure Given where
  values : List (CommandOption × Text)
  input? : Option Path
  deriving DecidableEq, Repr

namespace Given

/-- Nothing. -/
def empty : Given := ⟨[], none⟩

/-- What is given with one more option, which must not have been given before. -/
def add? (given : Given) (option : CommandOption) (value : Text) : Option Given :=
  if (given.values.lookup option).isSome then none
  else if value.isEmpty && !option.allowsEmpty then none
  else some { given with values := (option, value) :: given.values }

/-- What is given with the input, which must not have been given before. -/
def addInput? (given : Given) (input : Path) : Option Given :=
  match given.input? with
  | some _ => none
  | none => some { given with input? := some input }

/-- What is asked for when everything has been given. -/
def finish (given : Given) : Invocation :=
  match given.input? with
  | none => .misuse
  | some input => .localize {
      input := input
      catalog? := given.values.lookup .catalog
      language? := given.values.lookup .language
      htmlLanguage? := given.values.lookup .htmlLanguage
      fallback? := given.values.lookup .fallback
      configuration? := given.values.lookup .configuration
      encoding? := given.values.lookup .encoding
      output? := given.values.lookup .output
      silent := (given.values.lookup .silent).isSome }

end Given

/-- What follows from one argument. -/
inductive Progress where
  /-- The line is decided. -/
  | decided (invocation : Invocation)
  | more (given : Given)
  /-- The next argument is to be the value of an option. -/
  | wanting (given : Given) (option : CommandOption)

/-- What follows from a value for an option. -/
def giveValue (given : Given) (option : CommandOption) (value : Text) : Progress :=
  match given.add? option value with
  | some given => .more given
  | none => .decided .misuse

/-- What follows from an option that has no value. -/
def giveFlag (given : Given) (option : CommandOption) : Progress :=
  match option with
  | .help => .decided .help
  | .version => .decided .version
  | _ => giveValue given option []

/-- What follows from an option by its long name, with the value that is attached
to it, if one is. -/
def giveNamed (given : Given) (name : Text) (attached? : Option Text) : Progress :=
  match CommandOption.ofName? name with
  | none => .decided .misuse
  | some option =>
    match option.valueName?, attached? with
    | some _, some value => giveValue given option value
    | some _, none => .wanting given option
    | none, none => giveFlag given option
    | none, some _ => .decided .misuse

/-- What follows from options by their letters.  What stands behind the letter of
an option that has a value is the value. -/
def giveLetters (given : Given) : Text → Progress
  | [] => .more given
  | letter :: rest =>
    match CommandOption.ofLetter? letter with
    | none => .decided .misuse
    | some option =>
      if option.valueName?.isSome then
        match rest with
        | [] => .wanting given option
        | '=' :: value => giveValue given option value
        | value => giveValue given option value
      else
        match giveFlag given option with
        | .more given => giveLetters given rest
        | other => other

/-- What follows from an argument that is not a value. -/
def give (given : Given) (argument : Text) : Progress :=
  match argument with
  | '-' :: '-' :: long =>
    match Text.cut? '=' long with
    | some (name, value) => giveNamed given name (some value)
    | none => giveNamed given long none
  | '-' :: c :: letters => giveLetters given (c :: letters)
  | input =>
    match given.addInput? input with
    | some given => .more given
    | none => .decided .misuse

/-- Whether an argument can be the value of the option before it. -/
def isValue : Text → Bool
  | '-' :: _ :: _ => false
  | _ => true

/-- What arguments ask for of which none is an option. -/
def readInputs (given : Given) : List Text → Invocation
  | [] => given.finish
  | input :: rest =>
    match given.addInput? input with
    | some given => readInputs given rest
    | none => .misuse

/-- What arguments ask for, of which the first may be wanted by an option. -/
def readFrom (given : Given) : Option CommandOption → List Text → Invocation
  | none, [] => given.finish
  | some _, [] => .misuse
  | some option, argument :: rest =>
    if isValue argument then
      match given.add? option argument with
      | some given => readFrom given none rest
      | none => .misuse
    else .misuse
  | none, argument :: rest =>
    if argument = ['-', '-'] then readInputs given rest
    else
      match give given argument with
      | .decided invocation => invocation
      | .more given => readFrom given none rest
      | .wanting given option => readFrom given (some option) rest

/-- What a command line asks for. -/
def read (arguments : List Text) : Invocation :=
  readFrom .empty none arguments

end Command

end Polyglot
