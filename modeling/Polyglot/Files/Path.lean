import Polyglot.Text.Basic

/-!
# Paths

A path is a text in which slashes separate the names of directories and, at the
end, of a file.  What is done with paths here is done on their text alone; where
they lead is a matter of the files there are.
-/

set_option autoImplicit false

namespace Polyglot

/-- The way to a file or a directory. -/
abbrev Path : Type := Text

namespace Path

/-- Whether a path begins at the root. -/
def isAbsolute : Path → Bool
  | '/' :: _ => true
  | _ => false

/-- The names on a path; between two slashes there is an empty one. -/
def names (path : Path) : List Text :=
  Text.pieces '/' path

/-! ## Names of files -/

/-- The last name on a path. -/
def fileName (path : Path) : Text :=
  (path.reverse.takeWhile (· != '/')).reverse

/-- What follows the last point of the last name on a path.  A name has none if
its only point is its first character. -/
def extension? (path : Path) : Option Text :=
  let name := fileName path
  if name == ['.', '.'] then none
  else
    match Text.cut? '.' name.reverse with
    | none => none
    | some (_, []) => none
    | some (backwards, _ :: _) => some backwards.reverse

/-! ## Directories -/

/-- A path to a directory, read from its end, without what adds nothing to it
there: slashes, and names that are a single point.  The root stays, and so does
a point that is all there is. -/
def trimmedBackwards : Text → Text
  | [] => []
  | ['/'] => ['/']
  | '/' :: rest => trimmedBackwards rest
  | '.' :: '/' :: rest => trimmedBackwards ('/' :: rest)
  | other => other

/-- The path to the directory of a file; it is empty where the path is only the
name of the file. -/
def directory (path : Path) : Path :=
  (trimmedBackwards (path.reverse.dropWhile (· != '/'))).reverse

/-- The path that leads where another one leads from a directory. -/
def within (directory path : Path) : Path :=
  if isAbsolute path then path
  else
    match directory.getLast? with
    | none => path
    | some '/' => directory ++ path
    | some _ => directory ++ '/' :: path

/-! ## Homes -/

/-- A path with the home directory for a tilde that is all of its first name. -/
def fromHome (home? : Option Path) (path : Path) : Path :=
  match path, home? with
  | ['~'], some home => home
  | '~' :: '/' :: rest, some home => home ++ '/' :: rest
  | _, _ => path

/-! ## Small facts -/

@[simp] theorem within_of_isAbsolute {directory path : Path} (h : isAbsolute path = true) :
    within directory path = path := by
  simp [within, h]

@[simp] theorem within_nil (path : Path) : within [] path = path := by
  simp [within]

end Path

end Polyglot
