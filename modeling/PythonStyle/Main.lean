import PythonStyle.CommandLine.Run
import PythonStyle.CommandLine.Usage
import PythonStyle.Language.Parse
import Std.Data.HashMap

/-!
# The program

Everything that a check may ask of the file system is read first; the check itself is
a function of what was read.  The system is asked by texts, so that what is no text is not
found.
-/

namespace PythonStyle.Program

/-- The number of a reason.  Some calls give it with a minus sign, in two's complement. -/
def reasonNumber (number : UInt32) : Nat :=
  if number.toNat < 0x80000000 then number.toNat else 0x100000000 - number.toNat

/-- The reason that the system gives for refusing a path. -/
def fileError (number : UInt32) (words : String) : FileError :=
  match reasonNumber number with
  | 2 => .notFound
  | 20 => .notDirectory
  | 21 => .isDirectory
  | 40 => .linkLoop
  | n => .other n words

/-- Why a path could not be used. -/
def causeOf : IO.Error → FileError
  | .alreadyExists _ n w | .interrupted _ n w | .noFileOrDirectory _ n w
  | .invalidArgument _ n w | .permissionDenied _ n w | .resourceExhausted _ n w
  | .inappropriateType _ n w | .noSuchThing _ n w => fileError n w
  | .otherError n w | .resourceBusy n w | .resourceVanished n w | .unsupportedOperation n w
  | .hardwareFault n w | .unsatisfiedConstraints n w | .illegalOperation n w
  | .protocolError n w | .timeExpired n w => fileError n w
  | .unexpectedEof => .other 0 "unexpected end of file"
  | .userError w => .other 0 w

/-- Asks the system and keeps its answer, be it a refusal. -/
def ask {α : Type} (question : IO α) : IO (Except FileError α) := do
  match ← question.toBaseIO with
  | .ok answer => return .ok answer
  | .error e => return .error (causeOf e)

/-- The kind of a file. -/
def kindOf : IO.FS.FileType → FileKind
  | .file => .file
  | .dir => .directory
  | _ => .other

/-- Asks the system about a path. -/
def askAt {α : Type} (path : Path) (question : String → IO α) : IO (Except FileError α) :=
  match decode? path.bytes with
  | none => return .error .notFound
  | some text => ask (question text)

/-- What a path leads to. -/
def readStatus (path : Path) : IO (Except FileError FileStatus) := askAt path fun text => do
  let info ← (System.mkFilePath [text]).metadata
  let place ← IO.FS.realPath text
  return ⟨kindOf info.type, .ofText place.toString⟩

/-- The names in a directory. -/
def readEntries (path : Path) : IO (Except FileError (List DirectoryEntry)) :=
  askAt path fun text => do
    let found ← (System.mkFilePath [text]).readDir
    found.toList.mapM fun entry => do
      let info ← entry.path.symlinkMetadata
      return ⟨Text.bytes entry.fileName, info.type == .symlink⟩

/-- The bytes of a file. -/
def readBytes (path : Path) : IO (Except FileError (List UInt8)) := askAt path fun text => do
  return (← IO.FS.readBinFile text).toList

/-- The answers of the system for the paths that were asked about. -/
structure Snapshot where
  status : Std.HashMap Path (Except FileError FileStatus) := {}
  entries : Std.HashMap Path (Except FileError (List DirectoryEntry)) := {}
  bytes : Std.HashMap Path (Except FileError (List UInt8)) := {}

/-- The answers as a file system. -/
def Snapshot.fileSystem (s : Snapshot) : FileSystem where
  status path := s.status.getD path (.error .notFound)
  entries path := s.entries.getD path (.error .notFound)
  read path := s.bytes.getD path (.error .notFound)

/-- Asks about a path, and reads it if it is a file that would be checked. -/
def Snapshot.addPath (s : Snapshot) (path : Path) : IO Snapshot := do
  let status ← readStatus path
  let s := { s with status := s.status.insert path status }
  match status with
  | .ok ⟨.directory, _⟩ | .error _ => return s
  | .ok _ =>
    if handlesPath path then return { s with bytes := s.bytes.insert path (← readBytes path) }
    else return s

/-- Asks about a path and, if it is a directory, about what stands in it. -/
def snapshot (root : Path) : IO Snapshot := do
  let s ← Snapshot.addPath {} root
  match s.status.get? root with
  | some (.ok ⟨.directory, _⟩) =>
    let entries ← readEntries root
    let s := { s with entries := s.entries.insert root entries }
    match entries with
    | .ok names => names.foldlM (fun s entry => s.addPath (Path.join root entry.name)) s
    | .error _ => return s
  | _ => return s

/-- The least level of the events that are shown. -/
def leastLevel (verbose : Bool) : Level := if verbose then .debug else .warn

/-- Checks what the options ask for. -/
def check (options : Options) : IO UInt32 := do
  let s ← snapshot options.path
  let outcome := run Language.parse? s.fileSystem options
  for event in outcome.events do
    if (leastLevel options.verbose).rank ≤ event.level.rank then IO.eprintln event.render
  IO.print outcome.stdout
  IO.eprint outcome.stderr
  return outcome.exitCode.toUInt32

end PythonStyle.Program

open PythonStyle in
/-- The program: checks the path on the command line. -/
def main (words : List String) : IO UInt32 := do
  match readArguments words with
  | .ok options => Program.check options
  | .error .help =>
    IO.print usage
    return 0
  | .error .version =>
    IO.print versionText
    return 0
  | .error (.misuse error) =>
    IO.eprint ("error: " ++ error.message ++ "\n\n" ++ usage)
    return 2
