import Polyglot.Detection.Options
import Polyglot.Encoding.Labels
import Polyglot.Environment.Basic
import Polyglot.Problem

/-!
# Configurations

What is to be done with a page, as far as it is settled before the page is known.
A configuration is given as a record of settings, every one of which may be left
out.  The environment counts for more than the configuration: a variable that
gives a setting takes the place of the setting of the configuration, and one that
gives none leaves it as it is.
-/

set_option autoImplicit false

namespace Polyglot

/-- How pages are to be localized. -/
structure Configuration where
  /-- The language that pages are put into; if there is none, it is detected. -/
  language? : Option Text
  /-- The language that pages are written in; if there is none, they declare it. -/
  htmlLanguage? : Option Text
  /-- The language for pages whose language is not in the catalog. -/
  fallback? : Option Text
  /-- The path to the catalog. -/
  catalog? : Option Path
  /-- The encoding of pages that do not declare theirs. -/
  encoding : Text
  logLevel : Text
  detection : DetectionOptions
  deriving DecidableEq, Repr

namespace Configuration

/-- The configuration in which nothing is settled. -/
def default : Configuration where
  language? := none
  htmlLanguage? := none
  fallback? := none
  catalog? := none
  encoding := "utf-8".toList
  logLevel := LogLevel.info.name
  detection := .default

instance : Inhabited Configuration := ⟨default⟩

/-! ## Settings -/

/-- The names of the fields, in order. -/
def fieldNames : List Text :=
  ["language".toList, "html_language".toList, "fallback_lng".toList, "resource".toList,
    "encoding".toList, "log_level".toList, "detection".toList]

/-- The configuration that a setting gives. -/
def read? (setting : Setting) : Option Configuration :=
  match setting.fields? fieldNames with
  | some [language, htmlLanguage, fallback, catalog, encoding, logLevel, detection] => do
    let language ← Setting.given? default.language? Setting.optionalText? language
    let htmlLanguage ← Setting.given? default.htmlLanguage? Setting.optionalText? htmlLanguage
    let fallback ← Setting.given? default.fallback? Setting.optionalText? fallback
    let catalog ← Setting.given? default.catalog? Setting.optionalText? catalog
    let encoding ← Setting.given? default.encoding Setting.text? encoding
    let logLevel ← Setting.given? default.logLevel Setting.text? logLevel
    let detection ← Setting.given? default.detection DetectionOptions.read? detection
    some ⟨language, htmlLanguage, fallback, catalog, encoding, logLevel, detection⟩
  | _ => none

/-- A configuration whose path to the catalog leads from a directory. -/
def within (directory : Path) (configuration : Configuration) : Configuration :=
  { configuration with catalog? := configuration.catalog?.map (Path.within directory) }

/-! ## The environment -/

/-- A configuration with the settings of the environment in place of its own. -/
def overridden (environment : Environment) (configuration : Configuration) : Configuration :=
  { configuration with
    language? := (environment.setting? .language).or configuration.language?
    htmlLanguage? := (environment.setting? .htmlLanguage).or configuration.htmlLanguage?
    fallback? := (environment.setting? .fallback).or configuration.fallback?
    catalog? := (environment.setting? .catalog).or configuration.catalog?
    logLevel := (environment.setting? .logLevel).getD configuration.logLevel }

/-! ## Validity -/

/-- The languages of a configuration with their fields, in order. -/
def languages (configuration : Configuration) : List (LanguageField × Option Text) :=
  [(.language, configuration.language?), (.htmlLanguage, configuration.htmlLanguage?),
    (.fallback, configuration.fallback?)]

/-- Whether a language is there and blank. -/
def isBlankLanguage (language? : Option Text) : Bool :=
  language?.any fun language => (Text.trim language).isEmpty

/-- What is wrong with a configuration, if anything is. -/
def problem? (configuration : Configuration) : Option Problem :=
  if (Encoding.ofUsableLabel? configuration.encoding).isNone then
    some (.configUnknownEncoding configuration.encoding)
  else if (LogLevel.ofName? configuration.logLevel).isNone then
    some (.configUnknownLogLevel configuration.logLevel)
  else
    (configuration.languages.find? fun entry => isBlankLanguage entry.2).map fun entry =>
      .configBlankField entry.1

/-- A configuration can be used only if nothing is wrong with it. -/
def validate (configuration : Configuration) : Except Problem Unit :=
  match configuration.problem? with
  | some problem => .error problem
  | none => .ok ()

end Configuration

end Polyglot
