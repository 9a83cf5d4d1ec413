import Mathlib.Data.List.Basic
import PythonStyle.FileSystem.Tree

/-!
# Names in a file tree

A path is followed name by name.  This module says what one name does on the way, and what a file
tree answers about a directory below its base and the names in it.

Main definitions:

- `FileTree.isPlain`: whether a node stands at a place that is no link.

Main results:

- Theorems `FileTree.walk_name` and `FileTree.walk_link`: a name on the way leads to its node, and
  a link to what it holds.
- Theorems `FileTree.locate_name`, `FileTree.locate_join` and `FileTree.locate_join_link`: the
  places of a name below the base and of a name in a directory.
- Theorem `FileTree.locate_join_broken`: a link to a name that is missing leads nowhere.
- Theorems `FileTree.status_of_file`, `FileTree.status_of_directory`,
  `FileTree.entries_of_locate` and `FileTree.read_of_file`: the answers about a place.
-/

namespace PythonStyle

/-- The path of a name in a directory that has a name of its own. -/
theorem Path.bytes_join {directory : List UInt8} (hdirectory : IsName directory)
    (name : List UInt8) : (join ⟨directory⟩ name).bytes = directory ++ slash :: name := by
  have hlast : directory.getLast? ≠ some slash :=
    fun h => hdirectory.no_slash (List.mem_of_getLast? h)
  rw [join, if_neg hlast]

/-- A name does not start as a path from the base of the system does. -/
theorem Path.IsName.head?_ne {name : List UInt8} (h : IsName name) : name.head? ≠ some slash :=
  fun hfirst => h.no_slash (List.mem_of_head? hfirst)

theorem Path.IsName.ne_nil {name : List UInt8} (h : IsName name) : name ≠ [] := by
  rintro rfl
  cases h.not_idle

namespace FileTree

variable {t : FileTree} {links : Nat} {here place : Place} {name target : List UInt8}
  {more : List (List UInt8)} {path : Path}

/-! ## On the way -/

/-- Whether a node stands at a place that is no link. -/
def isPlain (t : FileTree) (place : Place) : Bool :=
  match t.node? place with
  | none | some (.link _) => false
  | some (.file _) | some .directory => true

/-- A name leads to its node, if that is no link. -/
theorem walk_name (hhere : t.node? here = some .directory) (hname : Path.IsName name)
    (hplain : t.isPlain (here ++ [name]) = true) :
    t.walk links here (name :: more) = t.walk links (here ++ [name]) more := by
  rw [walk, if_neg (not_not.mpr hhere), if_neg (by simp [hname.not_idle]), if_neg hname.not_back]
  rw [isPlain] at hplain
  rcases hnode : t.node? (here ++ [name]) with _ | (_ | _ | _)
  · rw [hnode] at hplain
    cases hplain
  · rfl
  · rfl
  · rw [hnode] at hplain
    cases hplain

/-- A link leads to what it holds, from where it stands. -/
theorem walk_link (hhere : t.node? here = some .directory) (hname : Path.IsName name)
    (hnode : t.node? (here ++ [name]) = some (.link ⟨target⟩)) (htarget : Path.IsName target) :
    t.walk (links + 1) here (name :: more) = t.walk links here (target :: more) := by
  rw [walk, if_neg (not_not.mpr hhere), if_neg (by simp [hname.not_idle]), if_neg hname.not_back,
    hnode]
  show (if target.head? = some Path.slash then _ else _) = _
  rw [if_neg htarget.head?_ne, Path.pieces_eq_singleton htarget.no_slash]
  rfl

/-- A name that is missing leads nowhere. -/
theorem walk_missing (hhere : t.node? here = some .directory) (hname : Path.IsName name)
    (hnode : t.node? (here ++ [name]) = none) :
    t.walk links here (name :: more) = .error .notFound := by
  rw [walk, if_neg (not_not.mpr hhere), if_neg (by simp [hname.not_idle]), if_neg hname.not_back,
    hnode]

/-! ## Places -/

/-- A name below the base leads to its node, if that is no link. -/
theorem locate_name (hname : Path.IsName name) (hplain : t.isPlain [name] = true) :
    t.locate ⟨name⟩ = .ok [name] := by
  rw [locate, if_neg (not_or.mpr ⟨hname.ne_nil, hname.head?_ne⟩),
    Path.pieces_eq_singleton hname.no_slash, walk_name rfl hname hplain, walk]
  rfl

section Directory

variable {directory : List UInt8} (hdirectory : Path.IsName directory)
  (hfound : t.node? [directory] = some .directory)

include hdirectory hfound

/-- What a name in a directory leads to is looked for in the directory. -/
theorem locate_join_eq (hname : Path.IsName name) :
    t.locate (Path.join ⟨directory⟩ name) = t.walk maxLinks [directory] [name] := by
  have hfirst : ¬ (directory ++ Path.slash :: name = [] ∨
      (directory ++ Path.slash :: name).head? = some Path.slash) := by
    obtain ⟨c, rest, rfl⟩ := List.exists_cons_of_ne_nil hdirectory.ne_nil
    rintro (h | h)
    · cases h
    · exact hdirectory.head?_ne h
  have hplain : t.isPlain ([] ++ [directory]) = true := by
    rw [List.nil_append, isPlain, hfound]
  rw [locate, Path.bytes_join hdirectory, if_neg hfirst, Path.pieces_append_slash,
    Path.pieces_eq_singleton hdirectory.no_slash, Path.pieces_eq_singleton hname.no_slash]
  exact walk_name rfl hdirectory hplain

/-- A name in a directory leads to its node, if that is no link. -/
theorem locate_join (hname : Path.IsName name) (hplain : t.isPlain [directory, name] = true) :
    t.locate (Path.join ⟨directory⟩ name) = .ok [directory, name] := by
  rw [locate_join_eq hdirectory hfound hname, walk_name hfound hname hplain, walk]
  rfl

/-- A link to a name leads to the node of that name in the same directory. -/
theorem locate_join_link (hname : Path.IsName name)
    (hlink : t.node? [directory, name] = some (.link ⟨target⟩)) (htarget : Path.IsName target)
    (hplain : t.isPlain [directory, target] = true) :
    t.locate (Path.join ⟨directory⟩ name) = .ok [directory, target] := by
  rw [locate_join_eq hdirectory hfound hname, maxLinks, walk_link hfound hname hlink htarget,
    walk_name hfound htarget hplain, walk]
  rfl

/-- A link to a name that is missing leads nowhere. -/
theorem locate_join_broken (hname : Path.IsName name)
    (hlink : t.node? [directory, name] = some (.link ⟨target⟩)) (htarget : Path.IsName target)
    (hmissing : t.node? [directory, target] = none) :
    t.locate (Path.join ⟨directory⟩ name) = .error .notFound := by
  rw [locate_join_eq hdirectory hfound hname, maxLinks, walk_link hfound hname hlink htarget,
    walk_missing hfound htarget hmissing]

end Directory

/-! ## Answers -/

theorem status_of_file {bytes : List UInt8} (h : t.locate path = .ok place)
    (hnode : t.node? place = some (.file bytes)) :
    t.fileSystem.status path = .ok ⟨.file, pathTo place⟩ := by
  show t.status path = _
  simp only [status, h, bind, Except.bind, hnode]
  rfl

theorem status_of_directory (h : t.locate path = .ok place)
    (hnode : t.node? place = some .directory) :
    t.fileSystem.status path = .ok ⟨.directory, pathTo place⟩ := by
  show t.status path = _
  simp only [status, h, bind, Except.bind, hnode]
  rfl

theorem status_of_locate_eq_error {error : FileError} (h : t.locate path = .error error) :
    t.fileSystem.status path = .error error := by
  show t.status path = _
  simp only [status, h, bind, Except.bind]

theorem entries_of_locate (h : t.locate path = .ok place) :
    t.fileSystem.entries path = .ok (t.nodes.filterMap (entryIn? place)) := by
  show t.entries path = _
  simp only [entries, h, bind, Except.bind]
  rfl

theorem read_of_file {bytes : List UInt8} (h : t.locate path = .ok place)
    (hnode : t.node? place = some (.file bytes)) : t.fileSystem.read path = .ok bytes := by
  show t.read path = _
  simp only [read, h, bind, Except.bind, hnode]
  rfl

end FileTree

end PythonStyle
