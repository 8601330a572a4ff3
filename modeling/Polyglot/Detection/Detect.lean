import Polyglot.Detection.Options
import Polyglot.Host.Basic

/-!
# Detecting and keeping a language

The language that is detected is the first one found that is not empty.  A
language that is chosen is kept in every cache of the options.
-/

set_option autoImplicit false

namespace Polyglot

namespace Host

/-- What a source says, where the document declares a given language. -/
def languageIn? (host : Host) (declared? : Option Text) (options : DetectionOptions) :
    LanguageSource → Option Text
  | .queryParameter => host.location.parameter? options.queryParameter
  | .cookie => host.cookie? options.cookie
  | .localStorage => host.localStorage.get? options.localStorage
  | .sessionStorage => host.sessionStorage.get? options.sessionStorage
  | .navigator => host.language?
  | .htmlTag => declared?

/-- The first language that is found. -/
def detect? (host : Host) (declared? : Option Text) (options : DetectionOptions) : Option Text :=
  options.order.findSome? fun source =>
    (host.languageIn? declared? options source).filter fun language => !language.isEmpty

/-- How many days a language is kept in a cookie. -/
def cookieDays : Int := 30

/-- A host in which a language is kept in one place. -/
def keepIn (host : Host) (language : Text) (options : DetectionOptions) : LanguageCache → Host
  | .queryParameter =>
    { host with location := host.location.setParameter options.queryParameter language }
  | .cookie => (host.setCookie? options.cookie language cookieDays).getD host
  | .localStorage =>
    { host with localStorage := host.localStorage.insert options.localStorage language }
  | .sessionStorage =>
    { host with sessionStorage := host.sessionStorage.insert options.sessionStorage language }

/-- A host in which a language is kept wherever the options say. -/
def keep (host : Host) (language : Text) (options : DetectionOptions) : Host :=
  options.caches.foldl (fun host cache => host.keepIn language options cache) host

end Host

end Polyglot
