import Polyglot.Files.Path
import Polyglot.Pairs.Basic
import Polyglot.Text.Utf8

/-!
# Files

A file system is a tree of directories with files in it, and a directory that
paths begin at when they do not begin at the root.  A path is followed name by
name from directory to directory; `Files.follow` says where it leads or why it
leads nowhere.  Writing never makes a directory.
-/

set_option autoImplicit false

namespace Polyglot

/-- Why a file cannot be read or written. -/
inductive FileFault where
  | notFound
  | notADirectory
  | isADirectory
  | nameTooLong
  /-- No name can hold the character of number zero. -/
  | zeroInName
  /-- What is in the file is not UTF-8. -/
  | notAText
  deriving DecidableEq, Repr

/-- The wording of a fault. -/
def FileFault.message : FileFault → Text
  | notFound => "No such file or directory (os error 2)".toList
  | notADirectory => "Not a directory (os error 20)".toList
  | isADirectory => "Is a directory (os error 21)".toList
  | nameTooLong => "File name too long (os error 36)".toList
  | zeroInName => "file name contained an unexpected NUL byte".toList
  | notAText => "stream did not contain valid UTF-8".toList

/-- What there can be at a place. -/
inductive FileNode where
  | directory
  | file (bytes : Bytes)
  deriving DecidableEq, Repr

/-- The names that lead to a place from the root. -/
abbrev Place : Type := List Text

/-- Directories and files. -/
structure Files where
  nodes : List (Place × FileNode)
  /-- Where the paths begin that do not begin at the root. -/
  here : Place
  deriving Repr

namespace Files

/-! ## Places -/

/-- What there is at a place.  There is always a root. -/
def node? (files : Files) (place : Place) : Option FileNode :=
  if place = [] then some .directory else files.nodes.lookup place

/-- A file system with one node set. -/
def put (files : Files) (place : Place) (node : FileNode) : Files :=
  { files with nodes := Pairs.set place node files.nodes }

/-- A file system with directories at all beginnings of a place that is not there
yet. -/
def putDirectories (files : Files) (place : Place) : Files :=
  (List.range place.length).foldl
    (fun files count =>
      let upper := place.take (count + 1)
      if (files.node? upper).isSome then files else files.put upper .directory)
    files

/-! ## Following a path -/

/-- The longest name that there can be, in bytes. -/
def longestName : Nat := 255

/-- The longest path that can be followed, in bytes. -/
def longestPath : Nat := 4095

/-- Where names lead from a node. -/
def followNames (files : Files) : Place → FileNode → List Text →
    Except FileFault (Place × FileNode)
  | place, node, [] => .ok (place, node)
  | _, .file _, _ :: _ => .error .notADirectory
  | place, .directory, name :: rest =>
    if name = [] ∨ name = ['.'] then followNames files place .directory rest
    else if name = ['.', '.'] then followNames files place.dropLast .directory rest
    else if longestName < Text.byteLength name then .error .nameTooLong
    else
      match files.node? (place ++ [name]) with
      | none => .error .notFound
      | some node => followNames files (place ++ [name]) node rest

/-- The place where a path begins. -/
def start (files : Files) (path : Path) : Place :=
  if path.isAbsolute then [] else files.here

/-- Why a text is no path that can be followed, if it is none. -/
def pathFault? (path : Path) : Option FileFault :=
  if path.any (· == '\x00') then some .zeroInName
  else if path = [] then some .notFound
  else if longestPath < Text.byteLength path then some .nameTooLong
  else none

/-- Where a path leads. -/
def follow (files : Files) (path : Path) : Except FileFault (Place × FileNode) :=
  match pathFault? path with
  | some fault => .error fault
  | none => files.followNames (files.start path) .directory path.names

/-- Whether a path leads anywhere. -/
def contains (files : Files) (path : Path) : Bool :=
  match files.follow path with
  | .ok _ => true
  | .error _ => false

/-! ## Reading -/

/-- The bytes of a file. -/
def read (files : Files) (path : Path) : Except FileFault Bytes :=
  match files.follow path with
  | .error fault => .error fault
  | .ok (_, .directory) => .error .isADirectory
  | .ok (_, .file bytes) => .ok bytes

/-- The text of a file. -/
def readText (files : Files) (path : Path) : Except FileFault Text :=
  match files.read path with
  | .error fault => .error fault
  | .ok bytes =>
    match Utf8.decode? bytes with
    | none => .error .notAText
    | some text => .ok text

/-- The bytes of the file of a name that is nearest to a directory: in the
directory itself or else in one above it.  The names that lead to the directory
are given last one first. -/
def nearest? (files : Files) (name : Text) (upward : List Text) : Option Bytes :=
  match files.node? (upward.reverse ++ [name]) with
  | some (.file bytes) => some bytes
  | _ =>
    match upward with
    | [] => none
    | _ :: above => nearest? files name above

/-! ## Writing -/

/-- The place of a file that is to be written.  Its directory must be there, and
it must not be a directory itself, nor be written like one. -/
def placeToWrite (files : Files) (path : Path) : Except FileFault Place :=
  match pathFault? path with
  | some fault => .error fault
  | none =>
    let names := path.names.filter fun name => !name.isEmpty
    match names.getLast? with
    | none => .error .isADirectory
    | some name =>
      match files.followNames (files.start path) .directory names.dropLast with
      | .error fault => .error fault
      | .ok (_, .file _) => .error .notADirectory
      | .ok (place, .directory) =>
        if name = ['.'] ∨ name = ['.', '.'] ∨ path.getLast? = some '/' then
          .error .isADirectory
        else if longestName < Text.byteLength name then .error .nameTooLong
        else
          match files.node? (place ++ [name]) with
          | some .directory => .error .isADirectory
          | _ => .ok (place ++ [name])

/-- A file system after a file has been written. -/
def write (files : Files) (path : Path) (bytes : Bytes) : Except FileFault Files :=
  match files.placeToWrite path with
  | .error fault => .error fault
  | .ok place => .ok (files.put place (.file bytes))

end Files

end Polyglot
