import Polyglot.Host.Basic

/-!
# Using a host

The single uses that can be made of a host from outside.  Each answers with a
text or with nothing; only the setting of a cookie can be impossible, when the
calendar does not reach to its end.
-/

set_option autoImplicit false

namespace Polyglot

/-- One of the two storages of a host. -/
inductive StorageArea where
  | localStorage
  | sessionStorage
  deriving DecidableEq, Repr

/-- One use of a host. -/
inductive HostAccess where
  | parameter (name : Text)
  | setParameter (name value : Text)
  | location
  | cookie (name : Text)
  | setCookie (name value : Text) (days : Int)
  | writeCookie (line : Text)
  | cookieLine
  | item (area : StorageArea) (key : Text)
  | setItem (area : StorageArea) (key value : Text)
  | eraseItem (area : StorageArea) (key : Text)
  | language
  deriving DecidableEq, Repr

namespace Host

/-- One of the storages of a host. -/
def storage (host : Host) : StorageArea → Storage
  | .localStorage => host.localStorage
  | .sessionStorage => host.sessionStorage

/-- A host with one of its storages changed. -/
def modifyStorage (host : Host) (area : StorageArea) (change : Storage → Storage) : Host :=
  match area with
  | .localStorage => { host with localStorage := change host.localStorage }
  | .sessionStorage => { host with sessionStorage := change host.sessionStorage }

/-- The host after one use of it, and the answer. -/
def access? (host : Host) : HostAccess → Option (Host × Option Text)
  | .parameter name => some (host, host.location.parameter? name)
  | .setParameter name value =>
    let location := host.location.setParameter name value
    some ({ host with location := location }, some location.write)
  | .location => some (host, some host.location.write)
  | .cookie name => some (host, host.cookie? name)
  | .setCookie name value days =>
    (host.setCookie? name value days).map fun host => (host, some host.cookieLine)
  | .writeCookie line =>
    let host := host.writeCookie line
    some (host, some host.cookieLine)
  | .cookieLine => some (host, some host.cookieLine)
  | .item area key => some (host, (host.storage area).get? key)
  | .setItem area key value => some (host.modifyStorage area (·.insert key value), none)
  | .eraseItem area key => some (host.modifyStorage area (·.erase key), none)
  | .language => some (host, host.language?)

/-- Several uses of a host in order, and their answers. -/
def accessAll? (host : Host) : List HostAccess → Option (Host × List (Option Text))
  | [] => some (host, [])
  | first :: rest => do
    let (host, answer) ← host.access? first
    let (host, answers) ← host.accessAll? rest
    some (host, answer :: answers)

end Host

end Polyglot
