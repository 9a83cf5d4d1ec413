import PythonStyle.FileSystem.Path

/-!
# File systems

What a checker needs to know about files: what stands at a path, what a directory
holds, and the bytes of a file.  Whoever asks may be refused, and learns why.

Main definitions:

- `FileError`: why a path could not be used, and how the system says so.
- `FileSystem`: the answers of a file system.
-/

namespace PythonStyle

/-- Why a path could not be used. -/
inductive FileError where
  | notFound
  | notDirectory
  | isDirectory
  | linkLoop
  /-- Any other reason: the number and the words of the system. -/
  | other (number : Nat) (words : String)
  deriving DecidableEq, Repr, Inhabited

namespace FileError

/-- The number by which the system knows a reason. -/
def number : FileError → Nat
  | notFound => 2
  | notDirectory => 20
  | isDirectory => 21
  | linkLoop => 40
  | other number _ => number

/-- The words by which the system names a reason. -/
def words : FileError → String
  | notFound => "No such file or directory"
  | notDirectory => "Not a directory"
  | isDirectory => "Is a directory"
  | linkLoop => "Too many levels of symbolic links"
  | other _ words => words

/-- What is said about a path that could not be used. -/
def message (e : FileError) : String :=
  e.words ++ " (os error " ++ toString e.number ++ ")"

end FileError

/-- What stands at a path. -/
inductive FileKind where
  | file
  | directory
  | other
  deriving DecidableEq, Repr, Inhabited

/-- What a path leads to, links followed: its kind, and its place, which is the same
for all paths that lead there. -/
structure FileStatus where
  kind : FileKind
  place : Path
  deriving DecidableEq, Repr, Inhabited

/-- The bytes of a name in a directory, and whether it is a link. -/
structure DirectoryEntry where
  name : List UInt8
  isLink : Bool
  deriving DecidableEq, Repr, Inhabited

/-- The answers of a file system. -/
structure FileSystem where
  /-- What a path leads to. -/
  status : Path → Except FileError FileStatus
  /-- The names in the directory at a path, each once, in any order. -/
  entries : Path → Except FileError (List DirectoryEntry)
  /-- The bytes of the file at a path. -/
  read : Path → Except FileError (List UInt8)

end PythonStyle
