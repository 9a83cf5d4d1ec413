import PythonStyle.Checking.Event
import PythonStyle.Source

/-!
# Finding the files to check

A directory contributes the files that stand directly in it and have a handled
extension, in the order of their names.  Anything else is checked itself if its
extension is handled.

Main definitions:

- `handlesPath` and `handlesExtension`: which files are checked.
- `DiscoveryError`: why the files could not be found.
- `discover`: the files to check.
-/

namespace PythonStyle

/-- The extensions of the files that are checked. -/
def handledExtensions : List String := ["py"]

/-- Whether files with an extension are checked. -/
def handlesExtension (extension : String) : Bool :=
  handledExtensions.contains extension

/-- Whether the file at a path is checked.  An extension that is no text is not handled. -/
def handlesPath (path : Path) : Bool :=
  (path.extension?.bind decode?).any handlesExtension

/-- Why the files to check could not be found. -/
inductive DiscoveryError where
  /-- The path itself cannot be used. -/
  | inaccessible (cause : FileError)
  /-- An entry of the directory cannot be used. -/
  | brokenEntry (path : Path) (cause : FileError)
  /-- An entry of the directory leads back to it. -/
  | loop (path root : Path)
  deriving DecidableEq, Repr, Inhabited

/-- What is said when the files to check could not be found. -/
def DiscoveryError.message : DiscoveryError → String
  | inaccessible cause => cause.message
  | brokenEntry path cause => "IO error for operation on " ++ path.label ++ ": " ++ cause.message
  | loop path root =>
    "File system loop found: " ++ path.label ++ " points to an ancestor " ++ root.label

/-- The files to check, and what happened while they were looked for. -/
structure Discovered where
  files : List Path
  events : List Event
  deriving Inhabited

/-- The file that an entry of a directory contributes, if any.  Links are followed
before the name is looked at. -/
def entryFile? (fs : FileSystem) (root place : Path) (entry : DirectoryEntry) :
    Except DiscoveryError (Option Path) :=
  let path := Path.join root entry.name
  match fs.status path with
  | .error cause => .error (.brokenEntry path cause)
  | .ok status =>
    if entry.isLink ∧ status.kind = .directory ∧ status.place = place then
      .error (.loop path root)
    else .ok (if status.kind = .file ∧ handlesPath path then some path else none)

/-- Collects what entries contribute, up to the first that fails. -/
def entryFiles (fs : FileSystem) (root place : Path) :
    List DirectoryEntry → Except DiscoveryError (List Path)
  | [] => .ok []
  | entry :: more => do
    let file ← entryFile? fs root place entry
    return file.toList ++ (← entryFiles fs root place more)

/-- Entries in the order of the bytes of their names. -/
def sortEntries (entries : List DirectoryEntry) : List DirectoryEntry :=
  entries.mergeSort fun a b => a.name ≤ b.name

/-- The files to check at a path. -/
def discover (fs : FileSystem) (root : Path) : Except DiscoveryError Discovered :=
  match fs.status root with
  | .error cause => .error (.inaccessible cause)
  | .ok status =>
    if status.kind = .directory then
      match fs.entries root with
      | .error cause => .error (.brokenEntry root cause)
      | .ok entries => do
        return ⟨← entryFiles fs root status.place (sortEntries entries), []⟩
    else if handlesPath root then .ok ⟨[root], []⟩
    else .ok ⟨[], [.fileSkipped root.label]⟩

end PythonStyle
