import PythonStyle.Text.Search
import PythonStyle.Text.Utf8

/-!
# Paths

A path is a sequence of names with slashes between them.  Empty names and the name of
one point lead nowhere, and the name of two points leads back.  Names are bytes and need
not be text; a path is shown by its label, and different paths may have the same label.

Main definitions:

- `Path`: the bytes of a path, and `Path.ofText` those of a text.
- `Path.label`: how a path is shown.
- `Path.pieces`: the names of a path.
- `Path.IsName`: what may be the name of something in a directory.
- `Path.join`: the path of a name in a directory.
- `Path.extension?`: what follows the last point of the last name.

Main results:

- `Path.pieces_eq_singleton`: a text without slashes is one name.
- `Path.nameExtension?_eq_some_iff`: which names have an extension.
- `Path.join_inj`: different names in a directory have different paths.
- `Path.extension?_join`: in any directory, a name has its extension.
-/

namespace PythonStyle

/-- A path, as the bytes that the system knows it by. -/
structure Path where
  bytes : List UInt8
  deriving DecidableEq, Repr, Inhabited, Hashable

namespace Path

/-- The path that a text spells. -/
def ofText (text : String) : Path := ⟨Text.bytes text⟩

/-- How a path is shown. -/
def label (path : Path) : String := String.ofList (Utf8.shown path.bytes)

/-- The byte that ends the name of a directory. -/
def slash : UInt8 := 0x2F

/-- The byte in front of an extension. -/
def point : UInt8 := 0x2E

/-- The pieces of a path between its slashes; there is always one. -/
def pieces : List UInt8 → List (List UInt8)
  | [] => [[]]
  | c :: path =>
    if c = slash then [] :: pieces path
    else match pieces path with
      | [] => [[c]]
      | piece :: more => (c :: piece) :: more

theorem pieces_ne_nil (path : List UInt8) : pieces path ≠ [] := by
  cases path with
  | nil => simp [pieces]
  | cons c path =>
      rw [pieces]
      split
      · simp
      · split <;> simp

/-- A slash ends a piece. -/
theorem pieces_append_slash (start rest : List UInt8) :
    pieces (start ++ slash :: rest) = pieces start ++ pieces rest := by
  induction start with
  | nil => rfl
  | cons c start ih =>
      rw [List.cons_append, pieces, pieces, ih]
      by_cases hc : c = slash
      · simp [hc]
      · cases hstart : pieces start with
        | nil => exact absurd hstart (pieces_ne_nil start)
        | cons piece more => simp [hc]

/-- A name without slashes is one piece. -/
theorem pieces_eq_singleton {name : List UInt8} (h : slash ∉ name) : pieces name = [name] := by
  induction name with
  | nil => rfl
  | cons c rest ih =>
    rw [List.mem_cons, not_or] at h
    rw [pieces, if_neg (Ne.symm h.1), ih h.2]

/-- Whether a piece leads nowhere. -/
def isIdle (piece : List UInt8) : Bool := piece == [] || piece == [point]

/-- The piece that leads back to the directory above. -/
def back : List UInt8 := [point, point]

/-- Whether something in a directory may have a given name. -/
structure IsName (name : List UInt8) : Prop where
  no_slash : slash ∉ name
  not_idle : isIdle name = false
  not_back : name ≠ back

instance (name : List UInt8) : Decidable (IsName name) :=
  decidable_of_iff (slash ∉ name ∧ isIdle name = false ∧ name ≠ back)
    ⟨fun h => ⟨h.1, h.2.1, h.2.2⟩, fun h => ⟨h.no_slash, h.not_idle, h.not_back⟩⟩

/-- The last name of a path, unless the path ends by leading back. -/
def fileName? (path : List UInt8) : Option (List UInt8) :=
  (((pieces path).filter fun piece => !isIdle piece).getLast?).filter (· != back)

/-- The name behind the last slash of a path is its file name. -/
theorem fileName?_append {name : List UInt8} (h : IsName name) (start : List UInt8) :
    fileName? (start ++ slash :: name) = some name := by
  have hlast : ((pieces (start ++ slash :: name)).filter fun piece => !isIdle piece).getLast? =
      some name := by
    rw [pieces_append_slash, pieces_eq_singleton h.no_slash, List.filter_append]
    simp [h.not_idle]
  rw [fileName?, hlast, Option.filter_some, if_pos (bne_iff_ne.mpr h.not_back)]

/-- What follows the last point of a name; nothing if there is no point, or only one in
front. -/
def nameExtension? (name : List UInt8) : Option (List UInt8) :=
  let stem := Text.after point name.reverse
  if stem.isEmpty then none else some ((name.reverse.takeWhile (· != point)).reverse)

/-- The extension stands behind the last point, and something has to stand in front of it. -/
theorem nameExtension?_append {extension : List UInt8} (h : point ∉ extension)
    (stem : List UInt8) :
    nameExtension? (stem ++ point :: extension) = if stem = [] then none else some extension := by
  have hreverse : (stem ++ point :: extension).reverse =
      extension.reverse ++ point :: stem.reverse := by simp
  have hpoint : point ∉ extension.reverse := by rwa [List.mem_reverse]
  have hall : ∀ c ∈ extension.reverse, (c != point) = true := by
    intro c hc
    apply bne_iff_ne.mpr
    rintro rfl
    exact hpoint hc
  rw [nameExtension?, hreverse, Text.after_append hpoint, List.takeWhile_append_of_pos hall]
  cases stem <;> simp

theorem nameExtension?_of_not_mem {name : List UInt8} (h : point ∉ name) :
    nameExtension? name = none := by
  have hpoint : point ∉ name.reverse := by rwa [List.mem_reverse]
  rw [nameExtension?, Text.after_of_not_mem hpoint]
  rfl

/-- A name has an extension if that is what stands behind its last point, with something in front
of the point. -/
theorem nameExtension?_eq_some_iff {name extension : List UInt8} :
    nameExtension? name = some extension ↔
      ∃ stem, stem ≠ [] ∧ name = stem ++ point :: extension ∧ point ∉ extension := by
  constructor
  · intro h
    by_cases hpoint : point ∈ name
    · rcases Text.exists_append_of_mem hpoint with ⟨stem, behind, rfl, hbehind⟩
      rw [nameExtension?_append hbehind] at h
      split at h
      · cases h
      · next hstem =>
          cases h
          exact ⟨stem, hstem, rfl, hbehind⟩
    · rw [nameExtension?_of_not_mem hpoint] at h
      cases h
  · rintro ⟨stem, hstem, rfl, hextension⟩
    rw [nameExtension?_append hextension, if_neg hstem]

/-- The extension of the last name of a path. -/
def extension? (path : Path) : Option (List UInt8) :=
  (fileName? path.bytes).bind nameExtension?

/-- The path of a name in a directory: a slash stands between them. -/
def join (directory : Path) (name : List UInt8) : Path :=
  if directory.bytes.getLast? = some slash then ⟨directory.bytes ++ name⟩
  else ⟨directory.bytes ++ slash :: name⟩

/-- The path of a name in a directory ends with a slash and the name. -/
theorem exists_bytes_join (directory : Path) :
    ∃ start, ∀ name, (join directory name).bytes = start ++ slash :: name := by
  by_cases h : directory.bytes.getLast? = some slash
  · rcases List.getLast?_eq_some_iff.mp h with ⟨start, hstart⟩
    refine ⟨start, fun name => ?_⟩
    rw [join, if_pos h, hstart, List.append_assoc]
    rfl
  · refine ⟨directory.bytes, fun name => ?_⟩
    rw [join, if_neg h]

/-- Different names in a directory have different paths. -/
theorem join_inj {directory : Path} {a b : List UInt8} :
    join directory a = join directory b ↔ a = b := by
  rcases exists_bytes_join directory with ⟨start, hstart⟩
  constructor
  · intro h
    have hbytes := congrArg bytes h
    rw [hstart, hstart, List.append_cancel_left_eq, List.cons.injEq] at hbytes
    exact hbytes.2
  · rintro rfl
    rfl

theorem extension?_join {name : List UInt8} (h : IsName name) (directory : Path) :
    extension? (join directory name) = nameExtension? name := by
  rcases exists_bytes_join directory with ⟨start, hstart⟩
  rw [extension?, hstart, fileName?_append h]
  rfl

end Path

end PythonStyle
