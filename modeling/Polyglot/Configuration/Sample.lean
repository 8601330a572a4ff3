import Polyglot.Configuration.File

/-!
# A configuration to begin with

A sample of a configuration file, as a document in TOML in which every field
stands that has a value.
-/

set_option autoImplicit false

namespace Polyglot.Configuration

/-- The sample: a language and a catalog. -/
def sample : Configuration :=
  { default with language? := some "es".toList, catalog? := some "locales.json".toList }

/-! ## Writing TOML -/

/-- A text between quotes, for texts in which nothing has to be escaped. -/
def quoted (text : Text) : Text :=
  '"' :: text ++ ['"']

/-- A list of texts: several stand on lines of their own. -/
def quotedList (texts : List Text) : Text :=
  match texts with
  | [] => "[]".toList
  | [text] => '[' :: quoted text ++ [']']
  | _ => "[\n".toList ++ texts.flatMap (fun text => "    ".toList ++ quoted text ++ ",\n".toList)
      ++ [']']

/-- A line with a value under a key. -/
def field (key value : Text) : Text :=
  key ++ " = ".toList ++ value ++ ['\n']

/-- A line with a text under a key, if there is a text. -/
def field? (key : Text) (text? : Option Text) : Text :=
  (text?.map fun text => field key (quoted text)).getD []

/-- Options of detection as a table. -/
def detectionTable (options : DetectionOptions) : Text :=
  "[detection]\n".toList
    ++ field "order".toList (quotedList (options.order.map LanguageSource.name))
    ++ field "lookup_querystring".toList (quoted options.queryParameter)
    ++ field "lookup_cookie".toList (quoted options.cookie)
    ++ field "lookup_local_storage".toList (quoted options.localStorage)
    ++ field "lookup_session_storage".toList (quoted options.sessionStorage)
    ++ field "caches".toList (quotedList (options.caches.map LanguageCache.name))

/-- A configuration as a document, if nothing in it has to be escaped. -/
def document (configuration : Configuration) : Text :=
  field? "language".toList configuration.language?
    ++ field? "html_language".toList configuration.htmlLanguage?
    ++ field? "fallback_lng".toList configuration.fallback?
    ++ field? "resource".toList configuration.catalog?
    ++ field "encoding".toList (quoted configuration.encoding)
    ++ field "log_level".toList (quoted configuration.logLevel)
    ++ '\n' :: detectionTable configuration.detection

/-- The files after the sample has been written to a path. -/
def writeSample (files : Files) (path : Path) : Except Problem Files :=
  match files.write path (Utf8.encode sample.document) with
  | .error fault => .error (.configUnwritable fault.message)
  | .ok files => .ok files

end Polyglot.Configuration
