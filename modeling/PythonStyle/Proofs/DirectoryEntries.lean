import Mathlib.Data.List.Basic
import PythonStyle.Discovery
import PythonStyle.Proofs.ByteOrder

/-!
# The entries of a directory

The entries of a directory are gone through in the order of their names.  An entry that cannot be
used ends the search, whatever its name is; any other one contributes a file or nothing.

Main definitions:

- `IsUsable`: whether an entry can be used.
- `isSource`: whether an entry contributes a file.
- `HasSourceName` and `LeadsToFile`: what makes it contribute one.
- `DiscoveryError.Concerns`: the path that an error is about.
- `DistinctNames`: whether each name is listed once.

Main results:

- Theorem `entryFiles_of_isUsable`: usable entries contribute their files.
- Theorem `exists_entryFiles_eq_error`: an entry that cannot be used ends the search.
- Theorem `eq_sortEntries`: there is one order by names.
- Theorem `exists_sortEntries_eq_append`: where a new entry comes in that order.
- Theorem `discover_of_directory`: what is found in a directory.
-/

namespace PythonStyle

/-! ## One entry -/

/-- Whether an entry can be used: it leads somewhere, and is no link back to the directory. -/
def IsUsable (fs : FileSystem) (root place : Path) (entry : DirectoryEntry) : Prop :=
  ∃ status, fs.status (Path.join root entry.name) = .ok status ∧
    ¬ (entry.isLink ∧ status.kind = .directory ∧ status.place = place)

/-- Whether an entry leads to a file that is to be checked. -/
def isSource (fs : FileSystem) (root : Path) (entry : DirectoryEntry) : Bool :=
  match fs.status (Path.join root entry.name) with
  | .ok status => status.kind = .file ∧ handlesPath (Path.join root entry.name)
  | .error _ => false

/-- Whether a name is that of a file to check: something and the extension. -/
def HasSourceName (name : List UInt8) : Prop :=
  ∃ stem, stem ≠ [] ∧ name = stem ++ Text.bytes ".py"

/-- Whether a path leads to a file, links followed. -/
def LeadsToFile (fs : FileSystem) (path : Path) : Prop :=
  ∃ place, fs.status path = .ok ⟨.file, place⟩

/-- An extension is handled if its bytes are those of the one that is. -/
theorem any_handlesExtension_iff {extension : List UInt8} :
    (decode? extension).any handlesExtension = true ↔ extension = Text.bytes "py" := by
  rw [Option.any_eq_true, ← decode?_eq_some_iff]
  constructor
  · rintro ⟨text, htext, hhandled⟩
    rw [handlesExtension, handledExtensions, List.contains_iff_mem, List.mem_singleton] at hhandled
    rw [htext, hhandled]
  · intro h
    exact ⟨"py", h, rfl⟩

/-- A file in a directory is checked if its name ends with the extension, and is not that alone. -/
theorem handlesPath_join_iff {name : List UInt8} (h : Path.IsName name) (directory : Path) :
    handlesPath (Path.join directory name) = true ↔ HasSourceName name := by
  rw [handlesPath, Path.extension?_join h]
  constructor
  · intro hhandled
    cases hextension : Path.nameExtension? name with
    | none =>
        rw [hextension] at hhandled
        cases hhandled
    | some extension =>
        rw [hextension, Option.bind_some, any_handlesExtension_iff] at hhandled
        subst hhandled
        rcases Path.nameExtension?_eq_some_iff.mp hextension with ⟨stem, hstem, hname, -⟩
        exact ⟨stem, hstem, hname⟩
  · rintro ⟨stem, hstem, rfl⟩
    have hextension : Path.nameExtension? (stem ++ Text.bytes ".py") = some (Text.bytes "py") :=
      Path.nameExtension?_eq_some_iff.mpr ⟨stem, hstem, rfl, by decide⟩
    rw [hextension, Option.bind_some, any_handlesExtension_iff]

/-- An entry that leads to a file can be used. -/
theorem LeadsToFile.isUsable {fs : FileSystem} {root : Path} {entry : DirectoryEntry}
    (h : LeadsToFile fs (Path.join root entry.name)) (place : Path) :
    IsUsable fs root place entry := by
  rcases h with ⟨target, hstatus⟩
  exact ⟨⟨.file, target⟩, hstatus, by simp⟩

theorem isSource_iff {fs : FileSystem} {root : Path} {entry : DirectoryEntry}
    (hname : Path.IsName entry.name) :
    isSource fs root entry = true ↔
      LeadsToFile fs (Path.join root entry.name) ∧ HasSourceName entry.name := by
  rw [← handlesPath_join_iff hname root]
  unfold isSource LeadsToFile
  cases fs.status (Path.join root entry.name) with
  | error cause => simp
  | ok status =>
      rcases status with ⟨kind, place⟩
      cases kind <;> simp

/-- Whether an error is about a path in the directory. -/
def DiscoveryError.Concerns (path : Path) : DiscoveryError → Prop
  | inaccessible _ => False
  | brokenEntry broken _ => broken = path
  | loop link _ => link = path

/-- An error is about one path. -/
theorem DiscoveryError.Concerns.unique {error : DiscoveryError} {p q : Path}
    (hp : error.Concerns p) (hq : error.Concerns q) : p = q := by
  cases error with
  | inaccessible cause => exact hp.elim
  | brokenEntry path cause => exact hp.symm.trans hq
  | loop path root => exact hp.symm.trans hq

section Entries

variable {fs : FileSystem} {root place : Path} {entry : DirectoryEntry}

theorem entryFile?_of_isUsable (h : IsUsable fs root place entry) :
    entryFile? fs root place entry =
      .ok (if isSource fs root entry then some (Path.join root entry.name) else none) := by
  rcases h with ⟨status, hstatus, hloop⟩
  simp only [entryFile?, isSource, hstatus]
  rw [if_neg hloop]
  simp

theorem entryFile?_of_not_isUsable (h : ¬ IsUsable fs root place entry) :
    ∃ error, entryFile? fs root place entry = .error error ∧
      error.Concerns (Path.join root entry.name) := by
  cases hstatus : fs.status (Path.join root entry.name) with
  | error cause =>
      refine ⟨.brokenEntry (Path.join root entry.name) cause, ?_, rfl⟩
      simp only [entryFile?, hstatus]
  | ok status =>
      have hloop : entry.isLink ∧ status.kind = .directory ∧ status.place = place := by
        by_contra hloop
        exact h ⟨status, hstatus, hloop⟩
      refine ⟨.loop (Path.join root entry.name) root, ?_, rfl⟩
      simp only [entryFile?, hstatus]
      rw [if_pos hloop]

/-! ## Several entries -/

theorem entryFiles_cons_of_ok {file : Option Path} (h : entryFile? fs root place entry = .ok file)
    (more : List DirectoryEntry) :
    entryFiles fs root place (entry :: more) =
      (entryFiles fs root place more).map (file.toList ++ ·) := by
  rw [entryFiles, h]
  cases entryFiles fs root place more <;> rfl

theorem entryFiles_cons_of_error {error : DiscoveryError}
    (h : entryFile? fs root place entry = .error error) (more : List DirectoryEntry) :
    entryFiles fs root place (entry :: more) = .error error := by
  rw [entryFiles, h]
  rfl

/-- Usable entries contribute their files, in order. -/
theorem entryFiles_of_isUsable {entries : List DirectoryEntry}
    (h : ∀ entry ∈ entries, IsUsable fs root place entry) :
    entryFiles fs root place entries =
      .ok ((entries.filter (isSource fs root)).map fun entry => Path.join root entry.name) := by
  induction entries with
  | nil => rfl
  | cons entry more ih =>
      rw [List.forall_mem_cons] at h
      rw [entryFiles_cons_of_ok (entryFile?_of_isUsable h.1), ih h.2]
      by_cases hsource : isSource fs root entry = true
      · simp [hsource, Except.map]
      · simp [hsource, Except.map]

/-- An entry that cannot be used ends the search, and the error is about such an entry. -/
theorem exists_entryFiles_eq_error {entries : List DirectoryEntry}
    (h : ∃ entry ∈ entries, ¬ IsUsable fs root place entry) :
    ∃ error, entryFiles fs root place entries = .error error ∧
      ∃ entry ∈ entries, error.Concerns (Path.join root entry.name) := by
  induction entries with
  | nil => simp at h
  | cons entry more ih =>
      by_cases hentry : IsUsable fs root place entry
      · have hmore : ∃ entry ∈ more, ¬ IsUsable fs root place entry := by
          rcases h with ⟨broken, hmem, hbroken⟩
          rcases List.mem_cons.mp hmem with rfl | hmem
          · exact absurd hentry hbroken
          · exact ⟨broken, hmem, hbroken⟩
        rcases ih hmore with ⟨error, herror, broken, hmem, hconcerns⟩
        refine ⟨error, ?_, broken, List.mem_cons_of_mem entry hmem, hconcerns⟩
        rw [entryFiles_cons_of_ok (entryFile?_of_isUsable hentry), herror]
        rfl
      · rcases entryFile?_of_not_isUsable hentry with ⟨error, herror, hconcerns⟩
        exact ⟨error, entryFiles_cons_of_error herror more, entry, List.mem_cons_self, hconcerns⟩

/-- Where there is no entry that cannot be used, all of them can. -/
theorem forall_isUsable {entries : List DirectoryEntry}
    (h : ¬ ∃ entry ∈ entries, ¬ IsUsable fs root place entry) :
    ∀ entry ∈ entries, IsUsable fs root place entry := by
  intro entry hentry
  by_contra hbroken
  exact h ⟨entry, hentry, hbroken⟩

/-- A search that fails does so because of an entry. -/
theorem exists_concerns_of_entryFiles {entries : List DirectoryEntry} {error : DiscoveryError}
    (h : entryFiles fs root place entries = .error error) :
    ∃ entry ∈ entries, error.Concerns (Path.join root entry.name) := by
  by_cases hbroken : ∃ entry ∈ entries, ¬ IsUsable fs root place entry
  · rcases exists_entryFiles_eq_error hbroken with ⟨other, hother, hconcerns⟩
    rw [h] at hother
    cases hother
    exact hconcerns
  · rw [entryFiles_of_isUsable (forall_isUsable hbroken)] at h
    cases h

/-- The search goes through some entries and then through others. -/
theorem entryFiles_append (before behind : List DirectoryEntry) :
    entryFiles fs root place (before ++ behind) = do
      let found ← entryFiles fs root place before
      let more ← entryFiles fs root place behind
      return found ++ more := by
  induction before with
  | nil =>
      have hnil : entryFiles fs root place [] = .ok [] := rfl
      rw [List.nil_append, hnil]
      cases entryFiles fs root place behind <;> rfl
  | cons entry before ih =>
      rw [List.cons_append]
      cases hentry : entryFile? fs root place entry with
      | error error =>
          rw [entryFiles_cons_of_error hentry, entryFiles_cons_of_error hentry]
          rfl
      | ok file =>
          rw [entryFiles_cons_of_ok hentry, entryFiles_cons_of_ok hentry, ih]
          cases entryFiles fs root place before with
          | error error => rfl
          | ok found =>
              cases entryFiles fs root place behind with
              | error error => rfl
              | ok more => exact congrArg Except.ok (List.append_assoc _ _ _).symm

/-- The search hangs on nothing but where the entries lead. -/
theorem entryFiles_congr {fs' : FileSystem} {entries : List DirectoryEntry}
    (h : ∀ entry ∈ entries,
      fs'.status (Path.join root entry.name) = fs.status (Path.join root entry.name)) :
    entryFiles fs' root place entries = entryFiles fs root place entries := by
  induction entries with
  | nil => rfl
  | cons entry more ih =>
      rw [List.forall_mem_cons] at h
      have hentry : entryFile? fs' root place entry = entryFile? fs root place entry := by
        simp only [entryFile?, h.1]
      rw [entryFiles, entryFiles, hentry, ih h.2]

theorem isUsable_congr {fs' : FileSystem}
    (h : fs'.status (Path.join root entry.name) = fs.status (Path.join root entry.name)) :
    IsUsable fs' root place entry ↔ IsUsable fs root place entry := by
  rw [IsUsable, IsUsable, h]

end Entries

/-! ## The order of the entries -/

/-- Whether each name is listed once. -/
def DistinctNames (entries : List DirectoryEntry) : Prop :=
  (entries.map fun entry => entry.name).Nodup

theorem sortEntries_perm (entries : List DirectoryEntry) : (sortEntries entries).Perm entries :=
  List.mergeSort_perm entries _

/-- Distinct names are in strict order. -/
theorem pairwise_sortEntries {entries : List DirectoryEntry} (h : DistinctNames entries) :
    (sortEntries entries).Pairwise fun a b => a.name < b.name := by
  have hsorted : (sortEntries entries).Pairwise fun a b => decide (a.name ≤ b.name) = true := by
    apply List.pairwise_mergeSort
    · intro a b c hab hbc
      rw [decide_eq_true_eq] at hab hbc ⊢
      exact List.le_trans hab hbc
    · intro a b
      rw [Bool.or_eq_true, decide_eq_true_eq, decide_eq_true_eq]
      exact List.le_total a.name b.name
  have hdistinct : (sortEntries entries).Pairwise fun a b => a.name ≠ b.name :=
    List.pairwise_map.mp (((sortEntries_perm entries).map _).nodup_iff.mpr h)
  refine (hsorted.and hdistinct).imp ?_
  intro a b hab
  exact Std.lt_of_le_of_ne (of_decide_eq_true hab.1) hab.2

/-- There is one way to list entries in strict order. -/
theorem eq_sortEntries {sorted entries : List DirectoryEntry} (hperm : sorted.Perm entries)
    (hsorted : sorted.Pairwise fun a b => a.name < b.name) : sorted = sortEntries entries := by
  have hdistinct : DistinctNames entries := by
    apply (hperm.map fun entry => entry.name).nodup_iff.mp
    exact List.pairwise_map.mpr (hsorted.imp fun hlt => Std.ne_of_lt hlt)
  apply List.Perm.eq_of_pairwise _ hsorted (pairwise_sortEntries hdistinct)
  · exact hperm.trans (sortEntries_perm entries).symm
  · intro a b _ _ hab hba
    exact absurd hab (List.lt_asymm hba)

/-- A new entry comes behind those with smaller names, and the others stay as they were. -/
theorem exists_sortEntries_eq_append {entries listed : List DirectoryEntry}
    {added : DirectoryEntry} (hlisted : listed.Perm (added :: entries))
    (hdistinct : DistinctNames (added :: entries)) :
    ∃ before behind, sortEntries listed = before ++ added :: behind ∧
      sortEntries entries = before ++ behind ∧
      ∀ entry ∈ entries, entry ∈ before ↔ entry.name < added.name := by
  have hall : (sortEntries listed).Perm (added :: entries) :=
    (sortEntries_perm listed).trans hlisted
  have hsorted : (sortEntries listed).Pairwise fun a b => a.name < b.name :=
    pairwise_sortEntries ((hlisted.map _).nodup_iff.mpr hdistinct)
  rcases List.append_of_mem (hall.mem_iff.mpr List.mem_cons_self) with ⟨before, behind, hsplit⟩
  rw [hsplit] at hall hsorted
  have hothers : (before ++ behind).Perm entries := (List.perm_middle.symm.trans hall).cons_inv
  have hcut := List.pairwise_append.mp hsorted
  have hbehind := List.pairwise_cons.mp hcut.2.1
  refine ⟨before, behind, hsplit, (eq_sortEntries hothers ?_).symm, ?_⟩
  · exact hsorted.sublist ((List.sublist_cons_self added behind).append_left before)
  · intro entry hentry
    constructor
    · intro hbefore
      exact hcut.2.2 entry hbefore added List.mem_cons_self
    · intro hlt
      rcases List.mem_append.mp (hothers.mem_iff.mpr hentry) with hbefore | hlater
      · exact hbefore
      · exact absurd hlt (List.lt_asymm (hbehind.1 entry hlater))

/-- In a directory, the search goes through the entries in the order of their names. -/
theorem discover_of_directory {fs : FileSystem} {root place : Path}
    {entries : List DirectoryEntry} (hroot : fs.status root = .ok ⟨.directory, place⟩)
    (hentries : fs.entries root = .ok entries) :
    discover fs root =
      (entryFiles fs root place (sortEntries entries)).map fun files => ⟨files, []⟩ := by
  simp only [discover, hroot, hentries]
  cases entryFiles fs root place (sortEntries entries) <;> rfl

end PythonStyle
