import Polyglot.Catalog.Json
import Polyglot.Files.Basic

/-!
# Catalogs in files

What goes wrong with a catalog in a file is told in the context of its path.
-/

set_option autoImplicit false

namespace Polyglot.Catalog

/-- The catalog in a file. -/
def ofFile (files : Files) (path : Path) : Except Problem Catalog :=
  match files.readText path with
  | .error fault => .error (.withContext path (.worded .io fault.message))
  | .ok text =>
    match read text with
    | .error problem => .error (.withContext path problem)
    | .ok catalog => .ok catalog

end Polyglot.Catalog
