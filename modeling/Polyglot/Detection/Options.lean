import Polyglot.Settings.Basic

/-!
# Options of detection

Where a language is looked for and in which order, under which names, and where
a language that was chosen is kept.
-/

set_option autoImplicit false

namespace Polyglot

/-- A place that a language may be found in. -/
inductive LanguageSource where
  | queryParameter
  | cookie
  | localStorage
  | sessionStorage
  /-- The language of the user. -/
  | navigator
  /-- The language that the document declares. -/
  | htmlTag
  deriving DecidableEq, Repr

/-- A place that a language can be kept in. -/
inductive LanguageCache where
  | queryParameter
  | cookie
  | localStorage
  | sessionStorage
  deriving DecidableEq, Repr

namespace LanguageSource

/-- The name of a source in a configuration. -/
def name : LanguageSource → Text
  | queryParameter => "querystring".toList
  | cookie => "cookie".toList
  | localStorage => "localStorage".toList
  | sessionStorage => "sessionStorage".toList
  | navigator => "navigator".toList
  | htmlTag => "htmlTag".toList

/-- All sources. -/
def all : List LanguageSource :=
  [queryParameter, cookie, localStorage, sessionStorage, navigator, htmlTag]

/-- The source that a setting names. -/
def read? : Setting → Option LanguageSource :=
  Setting.choice? (all.map fun source => (source.name, source))

end LanguageSource

namespace LanguageCache

/-- The source that finds what is kept in a cache. -/
def source : LanguageCache → LanguageSource
  | queryParameter => .queryParameter
  | cookie => .cookie
  | localStorage => .localStorage
  | sessionStorage => .sessionStorage

/-- The name of a cache in a configuration. -/
def name (cache : LanguageCache) : Text :=
  cache.source.name

/-- All caches. -/
def all : List LanguageCache :=
  [queryParameter, cookie, localStorage, sessionStorage]

/-- The cache that a setting names. -/
def read? : Setting → Option LanguageCache :=
  Setting.choice? (all.map fun cache => (cache.name, cache))

end LanguageCache

/-- How languages are detected and kept. -/
structure DetectionOptions where
  /-- The sources, those that count for more first. -/
  order : List LanguageSource
  /-- The name of the query parameter. -/
  queryParameter : Text
  /-- The name of the cookie. -/
  cookie : Text
  /-- The key in the local storage. -/
  localStorage : Text
  /-- The key in the session storage. -/
  sessionStorage : Text
  /-- The places where a chosen language is kept. -/
  caches : List LanguageCache
  deriving DecidableEq, Repr

namespace DetectionOptions

/-- The options that are used where none are given. -/
def default : DetectionOptions where
  order := LanguageSource.all
  queryParameter := "lng".toList
  cookie := "i18n_dom".toList
  localStorage := "i18nDOMLng".toList
  sessionStorage := "i18nDOMLng".toList
  caches := [.localStorage]

instance : Inhabited DetectionOptions := ⟨default⟩

/-- The names of the fields in a configuration, in order. -/
def fieldNames : List Text :=
  ["order".toList, "lookup_querystring".toList, "lookup_cookie".toList,
    "lookup_local_storage".toList, "lookup_session_storage".toList, "caches".toList]

/-- The options that a setting gives; the fields that it leaves out have their
defaults. -/
def read? (setting : Setting) : Option DetectionOptions :=
  match setting.fields? fieldNames with
  | some [order, queryParameter, cookie, localStorage, sessionStorage, caches] => do
    let order ← Setting.given? default.order (Setting.listOf? LanguageSource.read?) order
    let queryParameter ← Setting.given? default.queryParameter Setting.text? queryParameter
    let cookie ← Setting.given? default.cookie Setting.text? cookie
    let localStorage ← Setting.given? default.localStorage Setting.text? localStorage
    let sessionStorage ← Setting.given? default.sessionStorage Setting.text? sessionStorage
    let caches ← Setting.given? default.caches (Setting.listOf? LanguageCache.read?) caches
    some ⟨order, queryParameter, cookie, localStorage, sessionStorage, caches⟩
  | _ => none

end DetectionOptions

end Polyglot
