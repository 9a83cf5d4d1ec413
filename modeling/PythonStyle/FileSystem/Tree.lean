import PythonStyle.FileSystem.Basic

/-!
# File systems in memory

A file tree lists its nodes, each with its place: the names that lead to it from the
base without passing a link.  A path is followed name by name; a link is replaced by
the path that it holds.

Main definitions:

- `FileTree.walk`: the place that a path leads to.
- `FileTree.insert`: puts a node at a path, with the directories above it.
- `FileTree.fileSystem`: the answers of a file tree.
-/

namespace PythonStyle

/-- A node of a file tree. -/
inductive FileNode where
  | file (bytes : List UInt8)
  | directory
  | link (target : Path)
  deriving DecidableEq, Inhabited

/-- The names that lead from the base to a node. -/
abbrev Place := List (List UInt8)

/-- The nodes below a base directory. -/
structure FileTree where
  nodes : List (Place × FileNode)
  deriving Inhabited

namespace FileTree

/-- The tree of an empty base directory. -/
def empty : FileTree := ⟨[]⟩

/-- The node at a place.  The base is a directory. -/
def node? (t : FileTree) (place : Place) : Option FileNode :=
  if place = [] then some .directory else t.nodes.lookup place

/-- At most so many links are followed on the way along a path. -/
def maxLinks : Nat := 40

/-- Goes along the pieces of a path from a place, following at most so many links. -/
def walk (t : FileTree) : Nat → Place → List (List UInt8) → Except FileError Place
  | _, here, [] => .ok here
  | links, here, piece :: more =>
    if t.node? here ≠ some .directory then .error .notDirectory
    else if Path.isIdle piece then walk t links here more
    else if piece = Path.back then
      if here = [] then .error .notFound else walk t links here.dropLast more
    else match t.node? (here ++ [piece]) with
      | none => .error .notFound
      | some (.link target) =>
        match links with
        | 0 => .error .linkLoop
        | links + 1 =>
          if target.bytes.head? = some Path.slash then .error .notFound
          else walk t links here (Path.pieces target.bytes ++ more)
      | some _ => walk t links (here ++ [piece]) more
termination_by links _ pieces => (links, pieces.length)

/-- The place that a path leads to.  Paths that do not start at the base lead
nowhere, and neither does the empty path. -/
def locate (t : FileTree) (path : Path) : Except FileError Place :=
  if path.bytes = [] ∨ path.bytes.head? = some Path.slash then .error .notFound
  else t.walk maxLinks [] (Path.pieces path.bytes)

/-- Puts a node at a place. -/
def put (t : FileTree) (place : Place) (node : FileNode) : FileTree :=
  ⟨t.nodes.filter (·.1 ≠ place) ++ [(place, node)]⟩

/-- Puts a node at a path from a place.  Directories that are missing on the way are
made, and links on the way are followed. -/
def insertFrom (t : FileTree) (here : Place) (node : FileNode) : List (List UInt8) → FileTree
  | [] => t
  | [name] => t.put (here ++ [name]) node
  | name :: more =>
    match t.walk maxLinks here [name] with
    | .ok there => insertFrom t there node more
    | .error _ =>
      insertFrom (t.put (here ++ [name]) .directory) (here ++ [name]) node more

/-- Puts a node at a path. -/
def insert (t : FileTree) (path : Path) (node : FileNode) : FileTree :=
  t.insertFrom [] node ((Path.pieces path.bytes).filter fun piece => !Path.isIdle piece)

/-- The kind of a node; the end of a path is no link. -/
def kind : FileNode → FileKind
  | .file _ => .file
  | .directory => .directory
  | .link _ => .other

/-- The path of a place, from the base. -/
def pathTo (place : Place) : Path := ⟨place.flatMap (Path.slash :: ·)⟩

/-- What a path leads to. -/
def status (t : FileTree) (path : Path) : Except FileError FileStatus := do
  let place ← t.locate path
  match t.node? place with
  | some node => return ⟨kind node, pathTo place⟩
  | none => throw .notFound

/-- The name of a node that stands directly in a directory. -/
def entryIn? (place : Place) (node : Place × FileNode) : Option DirectoryEntry :=
  match node.1.getLast? with
  | some name =>
    if node.1.dropLast = place then
      some ⟨name, match node.2 with | .link _ => true | _ => false⟩
    else none
  | none => none

/-- The names in the directory at a path. -/
def entries (t : FileTree) (path : Path) : Except FileError (List DirectoryEntry) := do
  let place ← t.locate path
  return t.nodes.filterMap (entryIn? place)

/-- The bytes of the file at a path. -/
def read (t : FileTree) (path : Path) : Except FileError (List UInt8) := do
  match t.node? (← t.locate path) with
  | some (.file bytes) => return bytes
  | some .directory => throw .isDirectory
  | _ => throw .notFound

/-- The answers of a file tree. -/
def fileSystem (t : FileTree) : FileSystem := ⟨t.status, t.entries, t.read⟩

end FileTree

end PythonStyle
