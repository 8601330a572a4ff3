import Polyglot.Host.Cookie
import Polyglot.Host.Location

/-!
# Hosts

A host is what a document lives in: the location it was loaded from, cookies,
two storages of items by key, and the language of the user, if it is known.  Its
clock stands still while the host is used, since no use lasts long enough to see
it move.
-/

set_option autoImplicit false

namespace Polyglot

/-- Items by key. -/
structure Storage where
  items : List (Text × Text)
  deriving DecidableEq, Repr

namespace Storage

/-- The storage without items. -/
def empty : Storage := ⟨[]⟩

/-- The item of a key. -/
def get? (storage : Storage) (key : Text) : Option Text :=
  storage.items.lookup key

/-- A storage without the item of a key. -/
def erase (storage : Storage) (key : Text) : Storage :=
  ⟨storage.items.filter fun item => item.1 != key⟩

/-- A storage with the item of a key set. -/
def insert (storage : Storage) (key value : Text) : Storage :=
  ⟨(storage.erase key).items ++ [(key, value)]⟩

/-- The number of items. -/
def size (storage : Storage) : Nat := storage.items.length

/-- Whether there are no items. -/
def isEmpty (storage : Storage) : Bool := storage.items.isEmpty

end Storage

/-- What a document lives in. -/
structure Host where
  location : Location
  cookies : CookieJar
  /-- Items that are kept for good. -/
  localStorage : Storage
  /-- Items that are kept while the document is open. -/
  sessionStorage : Storage
  /-- The language of the user. -/
  language? : Option Text
  now : ClockTime
  deriving DecidableEq, Repr

namespace Host

/-- A host with nothing in it. -/
def new (now : ClockTime) : Host :=
  ⟨.localhost, .empty, .empty, .empty, none, now⟩

/-- The cookies of a host in one line. -/
def cookieLine (host : Host) : Text :=
  host.cookies.line host.now

/-- The value of a cookie. -/
def cookie? (host : Host) (name : Text) : Option Text :=
  Cookie.find? host.cookieLine name

/-- A host after a line has been written to its cookies. -/
def writeCookie (host : Host) (line : Text) : Host :=
  { host with cookies := host.cookies.write line host.now }

/-- A host with a cookie set for a number of days, unless the calendar does not
reach that far. -/
def setCookie? (host : Host) (name value : Text) (days : Int) : Option Host :=
  (Cookie.compose? name value days host.now).map host.writeCookie

end Host

end Polyglot
