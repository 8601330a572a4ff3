import Polyglot.Calendar.Stamp
import Polyglot.Host.Percent

/-!
# Cookies

A jar holds cookies by name; a cookie may have an instant at which it ends.
Writing `name=value; expires=...` to a jar replaces the cookie of that name, or
removes it if it has ended already.  Reading gives one line of all cookies that
have not ended, in the order in which they were last written.
-/

set_option autoImplicit false

namespace Polyglot

/-- A named value that may come to an end. -/
structure Cookie where
  name : Text
  value : Text
  ends? : Option Instant
  deriving DecidableEq, Repr

/-- Cookies in the order in which they were last written. -/
structure CookieJar where
  cookies : List Cookie
  deriving DecidableEq, Repr

namespace Cookie

/-- Whether a cookie has not ended at a time. -/
def isLive (cookie : Cookie) (now : ClockTime) : Bool :=
  cookie.ends?.all fun ends : Instant => now < ends

/-- The instant that an attribute names as the end, if it is such an attribute and
names one. -/
def endOf? (part : Text) : Option Instant :=
  match Text.cut? '=' part with
  | none => none
  | some (key, value) =>
    if Text.equalsIgnoringCase (Text.trim key) "expires".toList then
      Stamp.read? (Text.trim value)
    else none

/-- The cookie that a line writes; its first part must have an equals sign. -/
def read? (line : Text) : Option Cookie :=
  match Text.pieces ';' line with
  | [] => none
  | first :: parts =>
    (Text.cut? '=' first).map fun (name, value) =>
      ⟨Text.trim name, Text.trim value, parts.findSome? endOf?⟩

/-- The line that writes a cookie which ends a number of days from now, unless the
calendar does not reach that far.  The end is written in whole seconds, so the days
count from the beginning of the second. -/
def compose? (name value : Text) (days : Int) (now : ClockTime) : Option Text :=
  (now.instant.addDays? days).map fun ends =>
    name ++ '=' :: value ++ "; expires=".toList ++ Stamp.write ends

/-- The value of a name in a line of cookies.  The line is unescaped as a whole
before it is taken apart. -/
def find? (line name : Text) : Option Text :=
  (Text.pieces ';' (Percent.decodeLossy line)).findSome? fun part =>
    Text.after? (name ++ ['=']) (part.dropWhile (· == ' '))

end Cookie

namespace CookieJar

/-- The jar without cookies. -/
def empty : CookieJar := ⟨[]⟩

/-- A jar after a line has been written to it. -/
def write (jar : CookieJar) (line : Text) (now : ClockTime) : CookieJar :=
  match Cookie.read? line with
  | none => jar
  | some cookie =>
    let others := jar.cookies.filter fun other => other.name != cookie.name
    ⟨if cookie.isLive now then others ++ [cookie] else others⟩

/-- All cookies that have not ended, in one line. -/
def line (jar : CookieJar) (now : ClockTime) : Text :=
  Text.joined [';', ' '] ((jar.cookies.filter (·.isLive now)).map fun cookie =>
    cookie.name ++ '=' :: cookie.value)

end CookieJar

end Polyglot
