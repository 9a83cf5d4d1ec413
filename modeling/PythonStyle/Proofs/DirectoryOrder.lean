import PythonStyle.Proofs.Accounting
import PythonStyle.Proofs.DirectoryEntries
import PythonStyle.Proofs.FilePlaces

/-!
# The order of a directory and of its report

The files of a directory are found in the order of their names, and a report is sorted by the
labels of whole paths.  Where the names are texts, the labels differ only in the names, so that both
orders are the same, and the report goes through the files as they were found.  Names that are no
texts are shown in another way than they are sorted.

Main definitions:

- `SourceNames`: the names of the files to check in a directory.

Main results:

- Theorem `Path.label_join_lt`: names that are texts have labels in the same order.
- Theorem `Diagnostic.sort_flatMap`: what is found file by file is sorted file by file.
- Theorem `diagnostics_checkFiles_of_pairwise`: files in order make a report in blocks.
- Theorem `discover_in_order`: the files of a directory and the report on them.
- Theorem `not_forall_discover_in_order`: a name that is no text changes the order.
-/

namespace PythonStyle

/-! ## Labels in order -/

/-- Names in a directory that are texts have labels in the same order. -/
theorem Path.label_join_lt {a b : String} (h : a < b) (directory : Path) :
    (Path.join directory (Text.bytes a)).label < (Path.join directory (Text.bytes b)).label := by
  rcases Path.exists_bytes_join directory with ⟨start, hstart⟩
  have hlabel (name : String) : (Path.join directory (Text.bytes name)).label =
      String.ofList (Utf8.shown start ++ '/' :: name.toList) := by
    rw [Path.label, hstart, Utf8.shown_append_cons (by decide), Utf8.shown_bytes]
    rfl
  rw [hlabel, hlabel, String.lt_iff_toList_lt, String.toList_ofList, String.toList_ofList]
  apply List.append_left_lt
  rw [List.cons_lt_cons_iff]
  exact Or.inr ⟨rfl, String.lt_iff_toList_lt.mp h⟩

/-! ## Reports in blocks -/

theorem Diagnostic.isLE_order_of_file_lt {d e : Diagnostic} (h : d.file < e.file) :
    (order d e).isLE = true := by
  rw [Diagnostic.isLE_order_iff]
  exact Or.inl (Text.bytes_lt_bytes_iff.mpr h)

/-- What is found file by file is sorted file by file if the labels of the files are in order. -/
theorem Diagnostic.sort_flatMap {files : List Path}
    (hfiles : files.Pairwise fun p q => p.label < q.label) {block : Path → List Diagnostic}
    (hblock : ∀ path, ∀ d ∈ block path, d.file = path.label) :
    sort (files.flatMap block) = files.flatMap fun path => sort (block path) := by
  have hfile (path : Path) (d : Diagnostic) (hd : d ∈ sort (block path)) : d.file = path.label :=
    hblock path d ((sort_perm (block path)).mem_iff.mp hd)
  apply eq_of_pairwise_of_filter_eq (pairwise_sort _)
  · rw [List.pairwise_flatMap]
    refine ⟨fun path _ => pairwise_sort (block path), hfiles.imp ?_⟩
    intro p q hpq d hd e he
    apply isLE_order_of_file_lt
    rwa [hfile p d hd, hfile q e he]
  · intro d
    rw [filter_sort, List.filter_flatMap, List.filter_flatMap]
    simp only [filter_sort]

/-- Files that are checked in the order of their labels have their diagnostics in blocks, in the
same order. -/
theorem diagnostics_checkFiles_of_pairwise (parser : Parser) (read : Reader) {files : List Path}
    (hfiles : files.Pairwise fun p q => p.label < q.label) :
    (checkFiles parser read files).1.diagnostics =
      files.flatMap fun path => Diagnostic.sort (fileBlock parser read path) := by
  have hblock : ∀ path, ∀ d ∈ fileFindings parser read path, d.file = path.label :=
    fun _ _ hd => file_of_mem_contribution hd
  rw [diagnostics_report, Diagnostic.sort_flatMap hfiles hblock]
  simp only [fileBlock_eq_fileFindings]

/-- The text of a file with a class, one line further down than in others. -/
def lateText : String := "\n" ++ classText true

/-- How files with a class in each of them are read, which in one of them stands further down. -/
def readLate (late : Path) : Reader := fun path =>
  .ok (Text.bytes (if path = late then lateText else classText true))

/-- The class is found where it stands. -/
theorem classFinding_mem_lineFindings (label : String) :
    classFinding label 1 true ∈ lineFindings label (classText true) ∧
      classFinding label 2 true ∈ lineFindings label lateText := by
  have hlate : Text.lines (Text.normalizeNewlines lateText.toList) =
      ["\n".toList, ("class " ++ markName true ++ ":\n").toList, "    pass\n".toList] := by
    decide +kernel
  have hclass (before behind : List (List Char)) :=
    LineRules.mem_checkLines_of_badClassName? (badClassName?_classText true) label before behind 1 0
  rw [lineFindings, lineFindings, LineRules.checkText, LineRules.checkText, lines_classText, hlate]
  exact ⟨hclass [] _, hclass ["\n".toList] _⟩

theorem lineFindings_subset_fileBlock {parser : Parser} {read : Reader} {path : Path}
    {text : String} (h : readText read path = .ok text) :
    lineFindings path.label text ⊆ fileBlock parser read path := by
  rw [fileBlock_eq_fileFindings, fileFindings, h]
  simp only [contribution]
  cases accepted? parser (normalizedSource text) with
  | none => exact List.Subset.refl _
  | some tree => exact List.subset_append_left _ _

/-- In a report in blocks, what is found in a file stands before what is found in a later one. -/
theorem precedes_of_blocks {parser : Parser} {read : Reader} {files : List Path} {p q : Path}
    {d e : Diagnostic}
    (h : (checkFiles parser read files).1.diagnostics =
      files.flatMap fun path => Diagnostic.sort (fileBlock parser read path))
    (hsub : [p, q].Sublist files) (hd : d ∈ fileBlock parser read p)
    (he : e ∈ fileBlock parser read q) : Diagnostic.Precedes d e := by
  have hsorted := (accounts_checkFiles parser read files).diagnostics.ordered
  rw [h, List.pairwise_flatMap] at hsorted
  apply List.pairwise_iff_forall_sublist.mp hsorted.2 hsub
  · rwa [(Diagnostic.sort_perm _).mem_iff]
  · rwa [(Diagnostic.sort_perm _).mem_iff]

/-- Files whose reports are in blocks, however they are read, are in the order of their labels. -/
theorem pairwise_label_of_blocks {parser : Parser} {files : List Path} (hfiles : files.Nodup)
    (h : ∀ read, (checkFiles parser read files).1.diagnostics =
      files.flatMap fun path => Diagnostic.sort (fileBlock parser read path)) :
    files.Pairwise fun p q => p.label < q.label := by
  rw [List.pairwise_iff_forall_sublist]
  intro p q hsub
  have hne : q ≠ p := (List.pairwise_iff_forall_sublist.mp hfiles hsub).symm
  have hp : readText (readLate p) p = .ok lateText := by
    rw [readText_eq_ok_iff, readLate, if_pos rfl]
  have hq : readText (readLate p) q = .ok (classText true) := by
    rw [readText_eq_ok_iff, readLate, if_neg hne]
  -- What is found in the second line of the one file stands before the first line of the other.
  have hprecedes :
      Diagnostic.Precedes (classFinding p.label 2 true) (classFinding q.label 1 true) :=
    precedes_of_blocks (h (readLate p)) hsub
      (lineFindings_subset_fileBlock hp (classFinding_mem_lineFindings p.label).2)
      (lineFindings_subset_fileBlock hq (classFinding_mem_lineFindings q.label).1)
  rcases hprecedes with hlt | ⟨-, hlt | ⟨heq, -⟩⟩
  · exact Text.bytes_lt_bytes_iff.mp hlt
  · exact absurd hlt (by simp [classFinding, Diagnostic.of])
  · exact absurd heq (by simp [classFinding, Diagnostic.of])

/-! ## Directories -/

/-- The names of the files of a directory, in order. -/
structure SourceNames (fs : FileSystem) (root : Path) (entries : List DirectoryEntry)
    (names : List (List UInt8)) : Prop where
  /-- They are those of the entries that lead to files and have the extension. -/
  mem_iff : ∀ name, name ∈ names ↔
    (∃ entry ∈ entries, entry.name = name) ∧ LeadsToFile fs (Path.join root name) ∧
      HasSourceName name
  /-- Their bytes grow, so that no name comes twice. -/
  ordered : names.Pairwise fun a b => a < b

theorem sourceNames_sortEntries {fs : FileSystem} {root : Path} {entries : List DirectoryEntry}
    (hnames : ∀ entry ∈ entries, Path.IsName entry.name) (hdistinct : DistinctNames entries) :
    SourceNames fs root entries
      (((sortEntries entries).filter (isSource fs root)).map fun entry => entry.name) where
  mem_iff := by
    intro name
    rw [List.mem_map]
    constructor
    · rintro ⟨entry, hentry, rfl⟩
      rw [List.mem_filter, (sortEntries_perm entries).mem_iff] at hentry
      rw [← isSource_iff (hnames entry hentry.1)]
      exact ⟨⟨entry, hentry.1, rfl⟩, hentry.2⟩
    · rintro ⟨⟨entry, hentry, rfl⟩, hsource⟩
      rw [← isSource_iff (hnames entry hentry)] at hsource
      refine ⟨entry, List.mem_filter.mpr ⟨?_, hsource⟩, rfl⟩
      exact (sortEntries_perm entries).mem_iff.mpr hentry
  ordered := by
    rw [List.pairwise_map]
    exact (pairwise_sortEntries hdistinct).filter _

/-- Names of a directory that are texts have labels in order. -/
theorem SourceNames.pairwise_label {fs : FileSystem} {root : Path} {entries : List DirectoryEntry}
    {names : List (List UInt8)} (h : SourceNames fs root entries names)
    (htexts : ∀ name ∈ names, ∃ text, name = Text.bytes text) :
    (names.map (Path.join root)).Pairwise fun p q => p.label < q.label := by
  rw [List.pairwise_map]
  apply h.ordered.imp_of_mem
  intro a b ha hb hab
  rcases htexts a ha with ⟨s, rfl⟩
  rcases htexts b hb with ⟨t, rfl⟩
  exact Path.label_join_lt (Text.bytes_lt_bytes_iff.mp hab) root

theorem SourceNames.nodup {fs : FileSystem} {root : Path} {entries : List DirectoryEntry}
    {names : List (List UInt8)} (h : SourceNames fs root entries names) :
    (names.map (Path.join root)).Nodup := by
  rw [List.Nodup, List.pairwise_map]
  apply h.ordered.imp
  intro a b hab heq
  exact Std.ne_of_lt hab (Path.join_inj.mp heq)

/-- In a directory whose entries can all be used, the files found are those that stand in it and
whose names end with the extension, each once and in the order of the bytes of the names.  The
report on these files is in the order of their labels.  It goes through them as they were found
exactly if the labels are in the same order as the names, and so they are if the names are texts. -/
theorem discover_in_order {fs : FileSystem} {root place : Path} {entries : List DirectoryEntry}
    (hroot : fs.status root = .ok ⟨.directory, place⟩) (hentries : fs.entries root = .ok entries)
    (hnames : ∀ entry ∈ entries, Path.IsName entry.name)
    (hdistinct : DistinctNames entries)
    (husable : ∀ entry ∈ entries, IsUsable fs root place entry) :
    ∃ names, SourceNames fs root entries names ∧
      discover fs root = .ok ⟨names.map (Path.join root), []⟩ ∧
      (∀ (parser : Parser) (read : Reader),
        (checkFiles parser read (names.map (Path.join root))).1.diagnostics.Pairwise
            Diagnostic.Precedes ∧
          ∀ path, ∀ d ∈ fileBlock parser read path, d.file = path.label) ∧
      (∀ parser : Parser,
        (names.map (Path.join root)).Pairwise (fun p q => p.label < q.label) ↔
          ∀ read, (checkFiles parser read (names.map (Path.join root))).1.diagnostics =
            (names.map (Path.join root)).flatMap
              (fun path => Diagnostic.sort (fileBlock parser read path))) ∧
      ((∀ name ∈ names, ∃ text, name = Text.bytes text) →
        (names.map (Path.join root)).Pairwise fun p q => p.label < q.label) := by
  have hsorted : ∀ entry ∈ sortEntries entries, IsUsable fs root place entry := fun entry hentry =>
    husable entry ((sortEntries_perm entries).mem_iff.mp hentry)
  have hsources : SourceNames fs root entries _ := sourceNames_sortEntries hnames hdistinct
  refine ⟨_, hsources, ?_, fun parser read => ⟨?_, fun path d hd => ?_⟩, fun parser => ⟨?_, ?_⟩,
    hsources.pairwise_label⟩
  · rw [discover_of_directory hroot hentries, entryFiles_of_isUsable hsorted, List.map_map]
    rfl
  · exact (accounts_checkFiles parser read _).diagnostics.ordered
  · rw [fileBlock_eq_fileFindings] at hd
    exact file_of_mem_contribution hd
  · intro hlabels read
    exact diagnostics_checkFiles_of_pairwise parser read hlabels
  · exact pairwise_label_of_blocks hsources.nodup

/-- A directory with a file, a directory of its own and a link to the file. -/
def linkedFile : FileTree :=
  ⟨[([Text.bytes "d"], .directory),
    ([Text.bytes "d", Text.bytes "b.py"], .file (Text.bytes (classText true))),
    ([Text.bytes "d", Text.bytes "pkg.py"], .directory),
    ([Text.bytes "d", Text.bytes "a.py"], .link (.ofText "b.py"))]⟩

/-- The entries of the directory. -/
def linkedEntries : List DirectoryEntry :=
  [⟨Text.bytes "b.py", false⟩, ⟨Text.bytes "pkg.py", false⟩, ⟨Text.bytes "a.py", true⟩]

theorem locate_linkedFile :
    linkedFile.locate (.ofText "d") = .ok [Text.bytes "d"] ∧
      linkedFile.locate (Path.join (.ofText "d") (Text.bytes "b.py")) =
        .ok [Text.bytes "d", Text.bytes "b.py"] ∧
      linkedFile.locate (Path.join (.ofText "d") (Text.bytes "pkg.py")) =
        .ok [Text.bytes "d", Text.bytes "pkg.py"] ∧
      linkedFile.locate (Path.join (.ofText "d") (Text.bytes "a.py")) =
        .ok [Text.bytes "d", Text.bytes "b.py"] := by
  refine ⟨FileTree.locate_name (by decide) rfl, ?_, ?_, ?_⟩
  · exact FileTree.locate_join (by decide) rfl (by decide) rfl
  · exact FileTree.locate_join (by decide) rfl (by decide) rfl
  · exact FileTree.locate_join_link (by decide) rfl (by decide) rfl (by decide) rfl

theorem entries_linkedFile :
    linkedFile.fileSystem.entries (.ofText "d") = .ok linkedEntries :=
  FileTree.entries_of_locate locate_linkedFile.1

theorem isUsable_linkedFile :
    ∀ entry ∈ linkedEntries, IsUsable linkedFile.fileSystem (.ofText "d") (.ofText "/d") entry := by
  obtain ⟨-, hfile, hdirectory, hlink⟩ := locate_linkedFile
  simp only [linkedEntries, List.forall_mem_cons]
  refine ⟨⟨_, FileTree.status_of_file hfile rfl, ?_⟩,
    ⟨_, FileTree.status_of_directory hdirectory rfl, ?_⟩,
    ⟨_, FileTree.status_of_file hlink rfl, ?_⟩, ?_⟩
  all_goals simp

/-- The link is found before the file that it leads to, and so it is reported; the directory is not
found. -/
theorem discover_in_order_linkedFile :
    ∃ names, SourceNames linkedFile.fileSystem (.ofText "d") linkedEntries names ∧
      discover linkedFile.fileSystem (.ofText "d") =
        .ok ⟨names.map (Path.join (.ofText "d")), []⟩ ∧
      (checkFiles Language.parse? linkedFile.fileSystem.read
          (names.map (Path.join (.ofText "d")))).1.diagnostics =
        (names.map (Path.join (.ofText "d"))).flatMap (fun path =>
          Diagnostic.sort (fileBlock Language.parse? linkedFile.fileSystem.read path)) ∧
      classFinding "d/a.py" 1 true ∈
        fileBlock Language.parse? linkedFile.fileSystem.read (.ofText "d/a.py") ∧
      classFinding "d/b.py" 1 true ∈
        fileBlock Language.parse? linkedFile.fileSystem.read (.ofText "d/b.py") := by
  obtain ⟨hroot, hfile, -, hlink⟩ := locate_linkedFile
  rcases discover_in_order (FileTree.status_of_directory hroot rfl) entries_linkedFile (by decide)
    (by simp [DistinctNames, linkedEntries, Text.bytes_inj]) isUsable_linkedFile with
    ⟨names, hnames, hfound, -, hblocks, htexts⟩
  have hlabels := htexts (by
    intro name hname
    rcases (hnames.mem_iff name).mp hname with ⟨⟨entry, hentry, rfl⟩, -⟩
    simp only [linkedEntries, List.mem_cons, List.not_mem_nil, or_false] at hentry
    rcases hentry with rfl | rfl | rfl
    all_goals exact ⟨_, rfl⟩)
  have hclass (text : String)
      (hread : linkedFile.fileSystem.read (.ofText text) = .ok (Text.bytes (classText true))) :
      classFinding text 1 true ∈
        fileBlock Language.parse? linkedFile.fileSystem.read (.ofText text) := by
    apply lineFindings_subset_fileBlock (readText_eq_ok_iff.mpr hread)
    rw [Path.label_ofText]
    exact (classFinding_mem_lineFindings text).1
  exact ⟨names, hnames, hfound, (hblocks Language.parse?).mp hlabels _,
    hclass "d/a.py" (FileTree.read_of_file hlink rfl),
    hclass "d/b.py" (FileTree.read_of_file hfile rfl)⟩

/-! ## A name that is no text -/

/-- The name of a file: a character beyond the first plane, and the extension. -/
def highName : List UInt8 := [0xF0, 0x90, 0x80, 0x80] ++ Text.bytes ".py"

/-- The name of a file that is no text, and comes behind the other. -/
def strayName : List UInt8 := 0xFF :: Text.bytes ".py"

/-- A directory with two files of these names, and a class in each of them. -/
def strayDirectory : FileTree :=
  ⟨[([Text.bytes "d"], .directory),
    ([Text.bytes "d", highName], .file (Text.bytes (classText true))),
    ([Text.bytes "d", strayName], .file (Text.bytes (classText true)))]⟩

/-- The entries of the directory, in the order of their names. -/
def strayEntries : List DirectoryEntry := [⟨highName, false⟩, ⟨strayName, false⟩]

theorem locate_strayDirectory :
    strayDirectory.locate (.ofText "d") = .ok [Text.bytes "d"] ∧
      strayDirectory.locate (Path.join (.ofText "d") highName) = .ok [Text.bytes "d", highName] ∧
      strayDirectory.locate (Path.join (.ofText "d") strayName) =
        .ok [Text.bytes "d", strayName] := by
  refine ⟨FileTree.locate_name (by decide) rfl, ?_, ?_⟩
  · exact FileTree.locate_join (by decide) rfl (by decide) rfl
  · exact FileTree.locate_join (by decide) rfl (by decide) rfl

theorem status_strayDirectory :
    strayDirectory.fileSystem.status (.ofText "d") = .ok ⟨.directory, .ofText "/d"⟩ :=
  FileTree.status_of_directory locate_strayDirectory.1 rfl

theorem entries_strayDirectory :
    strayDirectory.fileSystem.entries (.ofText "d") = .ok strayEntries :=
  FileTree.entries_of_locate locate_strayDirectory.1

theorem read_strayDirectory :
    strayDirectory.fileSystem.read (Path.join (.ofText "d") highName) =
        .ok (Text.bytes (classText true)) ∧
      strayDirectory.fileSystem.read (Path.join (.ofText "d") strayName) =
        .ok (Text.bytes (classText true)) :=
  ⟨FileTree.read_of_file locate_strayDirectory.2.1 rfl,
    FileTree.read_of_file locate_strayDirectory.2.2 rfl⟩

theorem isName_strayEntries : ∀ entry ∈ strayEntries, Path.IsName entry.name := by decide

theorem isSource_strayEntries :
    ∀ entry ∈ strayEntries, isSource strayDirectory.fileSystem (.ofText "d") entry = true := by
  intro entry hentry
  rw [isSource_iff (isName_strayEntries entry hentry)]
  simp only [strayEntries, List.mem_cons, List.not_mem_nil, or_false] at hentry
  rcases hentry with rfl | rfl
  · exact ⟨⟨_, FileTree.status_of_file locate_strayDirectory.2.1 rfl⟩,
      [0xF0, 0x90, 0x80, 0x80], by simp, rfl⟩
  · exact ⟨⟨_, FileTree.status_of_file locate_strayDirectory.2.2 rfl⟩, [0xFF], by simp, rfl⟩

theorem isUsable_strayEntries :
    ∀ entry ∈ strayEntries,
      IsUsable strayDirectory.fileSystem (.ofText "d") (.ofText "/d") entry := by
  intro entry hentry
  have hsource := isSource_strayEntries entry hentry
  rw [isSource_iff (isName_strayEntries entry hentry)] at hsource
  exact hsource.1.isUsable _

/-- The files are found in the order of their names. -/
theorem discover_strayDirectory :
    discover strayDirectory.fileSystem (.ofText "d") =
      .ok ⟨[Path.join (.ofText "d") highName, Path.join (.ofText "d") strayName], []⟩ := by
  have hsorted : sortEntries strayEntries = strayEntries :=
    (eq_sortEntries (List.Perm.refl strayEntries) (by decide)).symm
  rw [discover_of_directory status_strayDirectory entries_strayDirectory, hsorted,
    entryFiles_of_isUsable isUsable_strayEntries, List.filter_eq_self.mpr isSource_strayEntries]
  rfl

/-- The labels are in the other order. -/
theorem label_strayName_lt :
    (Path.join (.ofText "d") strayName).label < (Path.join (.ofText "d") highName).label := by
  decide +kernel

/-- It is not the case that a report always goes through the files of a directory as they were
found: names that are no texts are shown in another order. -/
theorem not_forall_discover_in_order :
    ¬ ∀ (fs : FileSystem) (root place : Path) (entries : List DirectoryEntry),
      fs.status root = .ok ⟨.directory, place⟩ → fs.entries root = .ok entries →
        (∀ entry ∈ entries, Path.IsName entry.name) → DistinctNames entries →
        (∀ entry ∈ entries, IsUsable fs root place entry) →
        ∃ names, SourceNames fs root entries names ∧
          discover fs root = .ok ⟨names.map (Path.join root), []⟩ ∧
          (checkFiles Language.parse? fs.read (names.map (Path.join root))).1.diagnostics =
            (names.map (Path.join root)).flatMap
              (fun path => Diagnostic.sort (fileBlock Language.parse? fs.read path)) := by
  intro h
  rcases h strayDirectory.fileSystem (.ofText "d") (.ofText "/d") strayEntries
    status_strayDirectory entries_strayDirectory isName_strayEntries
    (by simp [DistinctNames, strayEntries, highName, strayName]) isUsable_strayEntries with
    ⟨names, -, hfound, hblocks⟩
  rw [discover_strayDirectory, Except.ok.injEq, Discovered.mk.injEq] at hfound
  rw [← hfound.1] at hblocks
  have hprecedes := precedes_of_blocks hblocks (List.Sublist.refl _)
    (lineFindings_subset_fileBlock (readText_eq_ok_iff.mpr read_strayDirectory.1)
      (classFinding_mem_lineFindings _).1)
    (lineFindings_subset_fileBlock (readText_eq_ok_iff.mpr read_strayDirectory.2)
      (classFinding_mem_lineFindings _).1)
  rcases hprecedes with hlt | ⟨heq, -⟩
  · exact lt_asymm label_strayName_lt (Text.bytes_lt_bytes_iff.mp hlt)
  · exact label_strayName_lt.ne' (Text.bytes_inj.mp heq)

end PythonStyle
