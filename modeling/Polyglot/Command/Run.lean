import Polyglot.Command.Line
import Polyglot.Configuration.File
import Polyglot.Webpage.Localize

/-!
# Running the command

A run reads a page, localizes it and writes it.  What it needs to know comes from
the command line, or else from the environment, or else from a configuration
file.  Nothing is written before everything else has been done, so a run that
ends with a problem has written nothing, unless the problem is that a write came
to a stop.
-/

set_option autoImplicit false

namespace Polyglot

/-- What pages are localized with in a configuration. -/
def Configuration.options (configuration : Configuration) : Webpage.Options where
  language? := configuration.language?
  htmlLanguage? := configuration.htmlLanguage?
  fallback? := configuration.fallback?
  encoding? := some configuration.encoding
  detection := configuration.detection

namespace Command

/-- A write that fails. -/
structure Breakage where
  /-- How many bytes get out before it does. -/
  after : Nat
  message : Text

/-- What a run finds. -/
structure Surroundings where
  files : Files
  environment : Environment
  /-- The standard input. -/
  input : Bytes
  /-- Why the standard input cannot be read to its end, if it cannot. -/
  inputFault? : Option Text := none
  /-- Where writing fails, if it does. -/
  breakage? : Option Breakage := none
  /-- The tools that the page is localized with. -/
  toolkit : Webpage.Toolkit := .standard

/-- The name of the standard input and of the standard output. -/
def standard : Path := ['-']

/-- A configuration with what is given on the command line in place of its
own. -/
def Arguments.apply (arguments : Arguments) (configuration : Configuration) : Configuration :=
  { configuration with
    language? := arguments.language?.or configuration.language?
    htmlLanguage? := arguments.htmlLanguage?.or configuration.htmlLanguage?
    fallback? := arguments.fallback?.or configuration.fallback?
    encoding := arguments.encoding?.getD configuration.encoding }

/-- The catalog of a run. -/
def readCatalog (files : Files) (arguments : Arguments) (configuration : Configuration) :
    Except Problem Catalog :=
  match arguments.catalog? with
  | some path => Catalog.ofFile files path
  | none =>
    if configuration.catalog?.isSome then configuration.readCatalog files
    else .error .noTableGiven

/-- The bytes of the page. -/
def readPage (surroundings : Surroundings) (path : Path) : Except Problem Bytes :=
  if path = standard then
    match surroundings.inputFault? with
    | none => .ok surroundings.input
    | some message => .error (.worded .io message)
  else
    match surroundings.files.read path with
    | .ok bytes => .ok bytes
    | .error fault => .error (.withContext path (.worded .io fault.message))

/-- The page that a run writes. -/
def localized (surroundings : Surroundings) (arguments : Arguments) :
    Except Problem Webpage.Localized := do
  let loaded ← Configuration.load surroundings.files surroundings.environment
    arguments.configuration?
  let configuration := arguments.apply loaded.configuration
  let catalog ← readCatalog surroundings.files arguments configuration
  let page ← readPage surroundings arguments.input
  surroundings.toolkit.localize page catalog configuration.options

/-- What a run leaves behind. -/
structure Outcome where
  /-- The exit code. -/
  code : Nat
  /-- What was written to the standard output. -/
  output : Bytes
  /-- The problem that the run ended with. -/
  problem? : Option Problem
  /-- The file that was written and what is in it. -/
  written? : Option (Path × Bytes)
  files : Files

/-- What gets out of some bytes that are written. -/
def Surroundings.passed (surroundings : Surroundings) (data : Bytes) : Bytes :=
  match surroundings.breakage? with
  | none => data
  | some breakage => data.take breakage.after

/-- The problem of writing. -/
def Surroundings.writeProblem? (surroundings : Surroundings) : Option Problem :=
  surroundings.breakage?.map fun breakage => .worded .io breakage.message

/-- The outcome of writing a page. -/
def deliver (surroundings : Surroundings) (output? : Option Path) (data : Bytes) : Outcome :=
  let problem? := surroundings.writeProblem?
  let code := if problem?.isSome then 1 else 0
  let passed := surroundings.passed data
  match output?.filter (· != standard) with
  | none => ⟨code, passed, problem?, none, surroundings.files⟩
  | some path =>
    match surroundings.files.write path passed with
    | .ok after => ⟨code, [], problem?, some (path, passed), after⟩
    | .error fault => ⟨1, [], some (.worded .io fault.message), none, surroundings.files⟩

/-- The outcome of telling something that was asked for. That it may not get out
is passed over. -/
def inform (surroundings : Surroundings) (text : Text) : Outcome :=
  ⟨0, surroundings.passed (Utf8.encode text), none, none, surroundings.files⟩

/-- The outcome of a run. -/
def run (surroundings : Surroundings) (line : List Text) : Outcome :=
  match read line with
  | .help => inform surroundings helpText
  | .version => inform surroundings versionText
  | .misuse => ⟨2, [], none, none, surroundings.files⟩
  | .localize arguments =>
    match localized surroundings arguments with
    | .ok page => deliver surroundings arguments.output? page.data
    | .error problem => ⟨1, [], some problem, none, surroundings.files⟩

end Command

end Polyglot
