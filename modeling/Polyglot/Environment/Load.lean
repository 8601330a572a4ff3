import Polyglot.Environment.Assignment
import Polyglot.Environment.Basic
import Polyglot.Files.Basic

/-!
# Environment files

Of several files the first that can be read to its end adds its assignments to
the environment.  A file is given up at a line that cannot be read, but what the
lines before it assigned stays.  A variable that has a value keeps it.

A file is tried only if there is something of its name where paths begin.  If
that is a directory, files of that name are looked for in the directories above.
-/

set_option autoImplicit false

namespace Polyglot.Environment

/-- The lines of a file. -/
def linesOf : Bytes → List Bytes
  | [] => [[]]
  | byte :: rest =>
    if byte = 10 then [] :: linesOf rest
    else match linesOf rest with
      | [] => [[byte]]
      | line :: others => (byte :: line) :: others

/-- The value of a variable: what the environment says, or what the file has
assigned, or nothing. -/
def look (environment : Environment) (assigned : List (Text × Option Text)) (name : Text) : Text :=
  match environment.get? name with
  | some value => value
  | none => ((assigned.lookup name).join).getD []

/-- An environment after some lines of a file, and whether all could be read. -/
def assignLines (environment : Environment) (assigned : List (Text × Option Text)) :
    List Bytes → Environment × Bool
  | [] => (environment, true)
  | line :: rest =>
    match (Utf8.decode? line).bind (Assignment.ofLine? (environment.look assigned)) with
    | none => (environment, false)
    | some none => assignLines environment assigned rest
    | some (some assignment) =>
      assignLines (environment.setDefault assignment.name (assignment.value?.getD []))
        ((assignment.name, assignment.value?) :: assigned) rest

/-- The bytes of the environment file of a name. -/
def fileNamed? (files : Files) (name : Text) : Option Bytes :=
  if files.contains name then files.nearest? name files.here.reverse else none

/-- An environment after the first of several files that can be read to its end. -/
def loadFirst (files : Files) (environment : Environment) : List Text → Environment
  | [] => environment
  | name :: rest =>
    match fileNamed? files name with
    | none => loadFirst files environment rest
    | some bytes =>
      match assignLines environment [] (linesOf bytes) with
      | (environment, true) => environment
      | (environment, false) => loadFirst files environment rest

/-- The names of the environment files, those that count for more first. -/
def fileNames : List Text :=
  [".env.local".toList, ".env.development".toList, ".env.production".toList, ".env".toList]

/-- An environment with what the environment files add to it. -/
def withFiles (environment : Environment) (files : Files) : Environment :=
  loadFirst files environment fileNames

end Polyglot.Environment
