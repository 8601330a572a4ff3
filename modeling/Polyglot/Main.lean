import Polyglot.Command.Run

/-!
# The program

Everything is decided by `Command.run`, which is about files as a value.  Here
the files that it may ask for are looked up beforehand, the variables too, and
what it leaves behind is written.  A write that fails ends the program with the
message of the system.
-/

set_option autoImplicit false

namespace Polyglot.Program

/-! ## Files -/

/-- The number by which the system says that a file is a directory. -/
def directoryCode : UInt32 := 21

/-- What there is at a place. -/
def lookUp (place : Place) : IO (Option FileNode) := do
  try
    let data ← IO.FS.readBinFile (String.ofList ('/' :: Text.joined ['/'] place))
    return some (.file data.toList)
  catch error =>
    match error with
    | .inappropriateType _ code _ =>
      return if code == directoryCode then some .directory else none
    | _ => return none

/-- Files with what is found on the way along names. -/
def survey (files : Files) : Place → List Text → IO Files
  | _, [] => return files
  | place, name :: rest =>
    if name = [] ∨ name = ['.'] then survey files place rest
    else if name = ['.', '.'] then survey files place.dropLast rest
    else do
      let place := place ++ [name]
      match ← lookUp place with
      | none => return files
      | some (.file bytes) => return files.put place (.file bytes)
      | some .directory => survey (files.put place .directory) place rest

/-- Files with what is found on the way along paths. -/
def surveyAll (files : Files) (paths : List Path) : IO Files :=
  paths.foldlM (fun files path => survey files (files.start path) path.names) files

/-- The paths to files of some names in a directory and in those above it. -/
def pathsUpward (names : List Text) (place : Place) : List Path :=
  (List.range (place.length + 1)).flatMap fun depth =>
    names.map fun name => '/' :: Text.joined ['/'] (place.take depth ++ [name])

/-- The directory that the program runs in. -/
def startingPoint : IO Files := do
  let names := (Path.names (← IO.currentDir).toString.toList).filter fun name => !name.isEmpty
  return (⟨[], names⟩ : Files).putDirectories names

/-! ## Variables -/

/-- The runs of characters in a text that names of variables are made of. -/
def words (text : Text) : List Text :=
  let separated := text.map fun c => if Assignment.continuesName c then c else ' '
  (Text.pieces ' ' separated).filter fun word => !word.isEmpty

/-- The variables of some names. -/
def environmentOf (names : List Text) : IO Environment := do
  let found ← names.filterMapM fun name => do
    let value? ← IO.getEnv (String.ofList name)
    return value?.map fun value => (name, value.toList)
  return ⟨found⟩

/-- The names of variables that may be asked for when environment files are
read. -/
def askedNames (files : Files) : List Text :=
  "HOME".toList :: Variable.all.map Variable.name
    ++ Environment.fileNames.flatMap fun name =>
      match Environment.fileNamed? files name with
      | some bytes => words (Utf8.decodeLossy bytes)
      | none => []

/-! ## Running -/

/-- All bytes of a stream. -/
partial def readAll (stream : IO.FS.Stream) (soFar : ByteArray) : IO ByteArray := do
  let chunk ← stream.read 65536
  if chunk.isEmpty then return soFar else readAll stream (soFar ++ chunk)

/-- What the command finds when it is asked to localize a page. -/
def surroundings (arguments : Command.Arguments) : IO Command.Surroundings := do
  let start ← startingPoint
  let files ← surveyAll start (pathsUpward Environment.fileNames start.here)
  let environment ← environmentOf (askedNames files)
  let home? := (environment.withFiles files).home?
  let files ← surveyAll files
    ((arguments.configuration?.toList ++ Configuration.places).map (Path.fromHome home?))
  let named : List Path :=
    match Configuration.load files environment arguments.configuration? with
    | .ok loaded => loaded.configuration.catalog?.toList
    | .error _ => []
  let files ← surveyAll files
    (named ++ arguments.catalog?.toList ++ arguments.output?.toList ++ [arguments.input])
  let found : Command.Surroundings := { files := files, environment := environment, input := [] }
  if arguments.input = Command.standard then
    try
      let input ← readAll (← IO.getStdin) .empty
      return { found with input := input.toList }
    catch error => return { found with inputFault? := some error.toString.toList }
  else return found

/-- Tells a problem in red. -/
def tell (message : Text) : IO Unit :=
  IO.eprintln s!"\x1b[31m{String.ofList message}\x1b[0m"

/-- Writes what a run leaves behind; the exit code. -/
def finish (outcome : Command.Outcome) : IO UInt32 := do
  match outcome.written? with
  | none => pure ()
  | some (path, data) =>
    IO.FS.writeBinFile (String.ofList path) (ByteArray.mk data.toArray)
  let output ← IO.getStdout
  output.write (ByteArray.mk outcome.output.toArray)
  output.flush
  match outcome.problem? with
  | none => pure ()
  | some problem => tell problem.message
  if outcome.code = 2 then IO.eprintln "The arguments cannot be read; --help shows how they go."
  return UInt32.ofNat outcome.code

end Polyglot.Program

/-- Runs the command. -/
def main (arguments : List String) : IO UInt32 := do
  let line := arguments.map String.toList
  try
    let surroundings ←
      match Polyglot.Command.read line with
      | .localize arguments => Polyglot.Program.surroundings arguments
      | _ => pure { files := ⟨[], []⟩, environment := ⟨[]⟩, input := [] }
    Polyglot.Program.finish (Polyglot.Command.run surroundings line)
  catch error =>
    Polyglot.Program.tell (Polyglot.Problem.worded .io error.toString.toList).message
    return 1
