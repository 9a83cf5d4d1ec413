import PythonStyle.Proofs.DirectoryEntries
import PythonStyle.Proofs.FilePlaces

/-!
# Entries that are not checked

An entry whose name has no handled extension contributes no file.  All the same it may end the
search: where it leads is looked at before its name.  This module says when an entry of this kind
makes no difference.

Main definitions:

- `AddsEntry`: whether a directory gets one entry more, and nothing changes about the others.

Main results:

- Theorem `entryFiles_insert`: when an entry that is not checked may be left out of a search.
- Theorems `AddsEntry.discover_eq` and `AddsEntry.exists_discover_eq_error`: what an entry does to
  what is found in its directory.
- Theorem `discover_added_iff`: when an entry that is not checked makes no difference.
- Theorem `not_forall_discover_added`: a broken link makes one.
-/

namespace PythonStyle

/-- Whether a directory gets one entry more, while the others lead where they led. -/
structure AddsEntry (root : Path) (entries : List DirectoryEntry) (added : DirectoryEntry)
    (fs fs' : FileSystem) : Prop where
  status_root : fs'.status root = fs.status root
  entries_before : fs.entries root = .ok entries
  entries_after : ∃ listed, fs'.entries root = .ok listed ∧ listed.Perm (added :: entries)
  distinct : DistinctNames (added :: entries)
  others : ∀ entry ∈ entries,
    fs'.status (Path.join root entry.name) = fs.status (Path.join root entry.name)

/-! ## Searches -/

section Searches

variable {fs : FileSystem} {root place : Path} {added : DirectoryEntry}
  {before behind : List DirectoryEntry}

/-- An entry that contributes nothing may be left out if it can be used, or if the search ends
before it. -/
theorem entryFiles_insert (hsource : isSource fs root added = false)
    (h : IsUsable fs root place added ∨ ∃ entry ∈ before, ¬ IsUsable fs root place entry) :
    entryFiles fs root place (before ++ added :: behind) =
      entryFiles fs root place (before ++ behind) := by
  rw [entryFiles_append, entryFiles_append]
  rcases h with husable | hbroken
  · rw [entryFiles_cons_of_ok (entryFile?_of_isUsable husable), hsource]
    cases entryFiles fs root place behind <;> rfl
  · rcases exists_entryFiles_eq_error hbroken with ⟨error, herror, -⟩
    rw [herror]
    rfl

/-- An entry that cannot be used ends the search if nothing before it does. -/
theorem exists_entryFiles_insert_eq_error
    (hbefore : ∀ entry ∈ before, IsUsable fs root place entry)
    (hadded : ¬ IsUsable fs root place added) (behind : List DirectoryEntry) :
    ∃ error, entryFiles fs root place (before ++ added :: behind) = .error error ∧
      error.Concerns (Path.join root added.name) := by
  rcases entryFile?_of_not_isUsable hadded with ⟨error, herror, hconcerns⟩
  refine ⟨error, ?_, hconcerns⟩
  rw [entryFiles_append, entryFiles_of_isUsable hbefore, entryFiles_cons_of_error herror]
  rfl

end Searches

/-! ## Directories -/

section Directories

variable {fs fs' : FileSystem} {root place : Path} {entries : List DirectoryEntry}
  {added : DirectoryEntry}

/-- The searches with and without an entry differ in that entry alone. -/
theorem AddsEntry.exists_discover_eq (h : AddsEntry root entries added fs fs')
    (hroot : fs.status root = .ok ⟨.directory, place⟩) :
    ∃ before behind, (before ++ behind).Perm entries ∧
      (∀ entry ∈ entries, entry ∈ before ↔ entry.name < added.name) ∧
      discover fs' root =
        (entryFiles fs' root place (before ++ added :: behind)).map (fun files => ⟨files, []⟩) ∧
      discover fs root =
        (entryFiles fs' root place (before ++ behind)).map (fun files => ⟨files, []⟩) := by
  rcases h.entries_after with ⟨listed, hlisted, hperm⟩
  rcases exists_sortEntries_eq_append hperm h.distinct with
    ⟨before, behind, hafter, hbefore, hsmaller⟩
  have hothers : (before ++ behind).Perm entries := hbefore ▸ sortEntries_perm entries
  refine ⟨before, behind, hothers, hsmaller, ?_, ?_⟩
  · rw [discover_of_directory (h.status_root.trans hroot) hlisted, hafter]
  · rw [discover_of_directory hroot h.entries_before, hbefore,
      entryFiles_congr fun entry hentry => h.others entry (hothers.mem_iff.mp hentry)]

/-- An error about an entry that is added does not come up without it. -/
theorem AddsEntry.entryFiles_ne_error (h : AddsEntry root entries added fs fs')
    {others : List DirectoryEntry} (hothers : others.Perm entries) {error : DiscoveryError}
    (hconcerns : error.Concerns (Path.join root added.name)) :
    entryFiles fs' root place others ≠ .error error := by
  intro herror
  rcases exists_concerns_of_entryFiles herror with ⟨entry, hentry, hother⟩
  have hname : entry.name = added.name := Path.join_inj.mp (hother.unique hconcerns)
  have hnew := (List.nodup_cons.mp h.distinct).1
  exact hnew (List.mem_map.mpr ⟨entry, hothers.mem_iff.mp hentry, hname⟩)

/-- The entries before the added one that cannot be used are those with smaller names, with it and
without it. -/
theorem AddsEntry.exists_broken_iff (h : AddsEntry root entries added fs fs')
    {before behind : List DirectoryEntry} (hothers : (before ++ behind).Perm entries)
    (hsmaller : ∀ entry ∈ entries, entry ∈ before ↔ entry.name < added.name) :
    (∃ entry ∈ entries, entry.name < added.name ∧ ¬ IsUsable fs root place entry) ↔
      ∃ entry ∈ before, ¬ IsUsable fs' root place entry := by
  have hmem : ∀ entry ∈ before, entry ∈ entries := fun entry hentry =>
    hothers.mem_iff.mp (List.mem_append_left behind hentry)
  constructor
  · rintro ⟨entry, hentry, hlt, hbroken⟩
    refine ⟨entry, (hsmaller entry hentry).mpr hlt, ?_⟩
    rwa [isUsable_congr (h.others entry hentry)]
  · rintro ⟨entry, hentry, hbroken⟩
    refine ⟨entry, hmem entry hentry, (hsmaller entry (hmem entry hentry)).mp hentry, ?_⟩
    rwa [isUsable_congr (h.others entry (hmem entry hentry))] at hbroken

/-- An entry that is not checked makes no difference if it can be used, or if the search ends before
it. -/
theorem AddsEntry.discover_eq (hadds : AddsEntry root entries added fs fs')
    (hroot : fs.status root = .ok ⟨.directory, place⟩) (hname : Path.IsName added.name)
    (hunhandled : ¬ HasSourceName added.name)
    (h : IsUsable fs' root place added ∨
      ∃ entry ∈ entries, entry.name < added.name ∧ ¬ IsUsable fs root place entry) :
    discover fs' root = discover fs root := by
  have hsource : isSource fs' root added = false := by
    rw [← Bool.not_eq_true, isSource_iff hname]
    exact fun hfile => hunhandled hfile.2
  rcases hadds.exists_discover_eq hroot with
    ⟨before, behind, hothers, hsmaller, hafter, hwithout⟩
  rw [hadds.exists_broken_iff hothers hsmaller] at h
  rw [hafter, hwithout, entryFiles_insert hsource h]

/-- An entry that cannot be used ends a search that comes to it, with an error that does not come up
without the entry. -/
theorem AddsEntry.exists_discover_eq_error (hadds : AddsEntry root entries added fs fs')
    (hroot : fs.status root = .ok ⟨.directory, place⟩)
    (hadded : ¬ IsUsable fs' root place added)
    (hearlier : ¬ ∃ entry ∈ entries, entry.name < added.name ∧ ¬ IsUsable fs root place entry) :
    ∃ error, discover fs' root = .error error ∧ error.Concerns (Path.join root added.name) ∧
      discover fs root ≠ .error error := by
  rcases hadds.exists_discover_eq hroot with
    ⟨before, behind, hothers, hsmaller, hafter, hwithout⟩
  rw [hadds.exists_broken_iff hothers hsmaller] at hearlier
  rcases exists_entryFiles_insert_eq_error (forall_isUsable hearlier) hadded behind with
    ⟨error, herror, hconcerns⟩
  refine ⟨error, by rw [hafter, herror]; rfl, hconcerns, ?_⟩
  rw [hwithout]
  intro hsame
  have hother : entryFiles fs' root place (before ++ behind) ≠ .error error :=
    hadds.entryFiles_ne_error hothers hconcerns
  cases hfiles : entryFiles fs' root place (before ++ behind) with
  | ok files =>
      rw [hfiles] at hsame
      cases hsame
  | error other =>
      rw [hfiles] at hsame
      cases hsame
      exact hother hfiles

/-- An entry that is not checked makes no difference exactly if it can be used, or if an entry
before it in the order of the names cannot.  Where it makes a difference, the search fails, and the
error is about the entry. -/
theorem discover_added_iff (hadds : AddsEntry root entries added fs fs')
    (hroot : fs.status root = .ok ⟨.directory, place⟩) (hname : Path.IsName added.name)
    (hunhandled : ¬ HasSourceName added.name) :
    (discover fs' root = discover fs root ↔
        IsUsable fs' root place added ∨
          ∃ entry ∈ entries, entry.name < added.name ∧ ¬ IsUsable fs root place entry) ∧
      (discover fs' root ≠ discover fs root → ∃ error, discover fs' root = .error error ∧
        error.Concerns (Path.join root added.name)) := by
  by_cases h : IsUsable fs' root place added ∨
      ∃ entry ∈ entries, entry.name < added.name ∧ ¬ IsUsable fs root place entry
  · have heq := hadds.discover_eq hroot hname hunhandled h
    exact ⟨iff_of_true heq h, fun hne => absurd heq hne⟩
  · rw [not_or] at h
    rcases hadds.exists_discover_eq_error hroot h.1 h.2 with ⟨error, hfails, hconcerns, hother⟩
    have hne : discover fs' root ≠ discover fs root := by
      rw [hfails]
      exact hother.symm
    exact ⟨iff_of_false hne (not_or.mpr h), fun _ => ⟨error, hfails, hconcerns⟩⟩

end Directories

/-! ## A broken link -/

/-- A directory with a file. -/
def oneFile : FileTree :=
  ⟨[([Text.bytes "d"], .directory), ([Text.bytes "d", Text.bytes "a.py"], .file [])]⟩

/-- The same directory with a link that leads nowhere. -/
def brokenLink : FileTree :=
  ⟨oneFile.nodes ++ [([Text.bytes "d", Text.bytes "notes"], .link (.ofText "nowhere"))]⟩

/-- The directory stands below the base, with the link or without it. -/
theorem locate_oneFile : oneFile.locate (.ofText "d") = .ok [Text.bytes "d"] :=
  FileTree.locate_name (by decide) rfl

theorem locate_brokenLink : brokenLink.locate (.ofText "d") = .ok [Text.bytes "d"] :=
  FileTree.locate_name (by decide) rfl

theorem entries_oneFile :
    oneFile.fileSystem.entries (.ofText "d") = .ok [⟨Text.bytes "a.py", false⟩] :=
  FileTree.entries_of_locate locate_oneFile

theorem entries_brokenLink :
    brokenLink.fileSystem.entries (.ofText "d") =
      .ok [⟨Text.bytes "a.py", false⟩, ⟨Text.bytes "notes", true⟩] :=
  FileTree.entries_of_locate locate_brokenLink

theorem status_oneFile :
    oneFile.fileSystem.status (.ofText "d") = .ok ⟨.directory, .ofText "/d"⟩ ∧
      oneFile.fileSystem.status (Path.join (.ofText "d") (Text.bytes "a.py")) =
        .ok ⟨.file, .ofText "/d/a.py"⟩ := by
  constructor
  · exact FileTree.status_of_directory locate_oneFile rfl
  · exact FileTree.status_of_file (FileTree.locate_join (by decide) rfl (by decide) rfl) rfl

/-- Next to the link, the file is found as before. -/
theorem status_brokenLink :
    brokenLink.fileSystem.status (.ofText "d") = .ok ⟨.directory, .ofText "/d"⟩ ∧
      brokenLink.fileSystem.status (Path.join (.ofText "d") (Text.bytes "a.py")) =
        .ok ⟨.file, .ofText "/d/a.py"⟩ ∧
      brokenLink.fileSystem.status (Path.join (.ofText "d") (Text.bytes "notes")) =
        .error .notFound := by
  refine ⟨FileTree.status_of_directory locate_brokenLink rfl, ?_, ?_⟩
  · exact FileTree.status_of_file (FileTree.locate_join (by decide) rfl (by decide) rfl) rfl
  · exact FileTree.status_of_locate_eq_error
      (FileTree.locate_join_broken (by decide) rfl (by decide) rfl (by decide) rfl)

theorem addsEntry_brokenLink :
    AddsEntry (.ofText "d") [⟨Text.bytes "a.py", false⟩] ⟨Text.bytes "notes", true⟩
      oneFile.fileSystem brokenLink.fileSystem where
  status_root := by rw [status_oneFile.1, status_brokenLink.1]
  entries_before := entries_oneFile
  entries_after := ⟨_, entries_brokenLink, List.Perm.swap _ _ _⟩
  distinct := by simp [DistinctNames, Text.bytes_inj]
  others := by
    intro entry hentry
    rw [List.mem_singleton.mp hentry, status_brokenLink.2.1, status_oneFile.2]

/-- The link cannot be used, and the file can. -/
theorem isUsable_brokenLink :
    ¬ IsUsable brokenLink.fileSystem (.ofText "d") (.ofText "/d") ⟨Text.bytes "notes", true⟩ ∧
      ¬ ∃ entry ∈ [(⟨Text.bytes "a.py", false⟩ : DirectoryEntry)],
        entry.name < Text.bytes "notes" ∧
          ¬ IsUsable oneFile.fileSystem (.ofText "d") (.ofText "/d") entry := by
  constructor
  · rintro ⟨status, hstatus, -⟩
    rw [status_brokenLink.2.2] at hstatus
    cases hstatus
  · rintro ⟨entry, hentry, -, hbroken⟩
    apply hbroken
    rw [List.mem_singleton.mp hentry]
    exact LeadsToFile.isUsable ⟨.ofText "/d/a.py", status_oneFile.2⟩ _

theorem isName_notes : Path.IsName (Text.bytes "notes") := by decide

theorem not_hasSourceName_notes : ¬ HasSourceName (Text.bytes "notes") := by
  rintro ⟨stem, -, hname⟩
  have hlast := congrArg List.getLast? hname
  simp [Text.bytes, String.utf8EncodeChar] at hlast

/-- The link makes a difference, although its name has no handled extension. -/
theorem discover_added_iff_brokenLink :
    AddsEntry (.ofText "d") [⟨Text.bytes "a.py", false⟩] ⟨Text.bytes "notes", true⟩
        oneFile.fileSystem brokenLink.fileSystem ∧
      ¬ HasSourceName (Text.bytes "notes") ∧
      ∃ error, discover brokenLink.fileSystem (.ofText "d") = .error error ∧
        error.Concerns (.ofText "d/notes") := by
  have hexact := discover_added_iff addsEntry_brokenLink status_oneFile.1 isName_notes
    not_hasSourceName_notes
  refine ⟨addsEntry_brokenLink, not_hasSourceName_notes, hexact.2 ?_⟩
  rw [ne_eq, hexact.1, not_or]
  exact isUsable_brokenLink

/-- It is not the case that entries without a handled extension make no difference: the link that
leads nowhere keeps the file from being found. -/
theorem not_forall_discover_added :
    ¬ ∀ (fs fs' : FileSystem) (root place : Path) (entries : List DirectoryEntry)
      (added : DirectoryEntry), AddsEntry root entries added fs fs' →
        fs.status root = .ok ⟨.directory, place⟩ → Path.IsName added.name →
        ¬ HasSourceName added.name → discover fs' root = discover fs root := by
  intro h
  have hsame := h _ _ (.ofText "d") (.ofText "/d") _ _ addsEntry_brokenLink status_oneFile.1
    isName_notes not_hasSourceName_notes
  rcases addsEntry_brokenLink.exists_discover_eq_error status_oneFile.1 isUsable_brokenLink.1
    isUsable_brokenLink.2 with ⟨error, hfails, -, hother⟩
  rw [hsame] at hfails
  exact hother hfails

end PythonStyle
