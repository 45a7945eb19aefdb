import Xcp.Infra.Basic
import Xcp.Library.FileTree
import Xcp.Message

/-!
# Recording a directory

`transfer_source::prepare_transfer_directory` walks over a directory and records a relative path for
every entry, below which the destination creates it. The path is computed with
`std::filesystem::relative`, which follows links, and joined to the last filename of the argument:
so the copy keeps the shape of the tree and stays inside the destination exactly when the walk
meets no link and the argument does not end in `..`.
-/

namespace Xcp

open Outcome

namespace Source

/-- `internal_open_regular_file` for a file of this size and mode. -/
def internalOpenRegularFile (filePath : FilePath) (size : Fin (2 ^ 63)) (mode : ℕ) (readable : Bool) :
    Outcome PrepareError BasicFileInfo :=
  if readable then
    .ok
      { relativePath := FilePath.ofName filePath.filename
        fileSize := size
        posixPerm := mode &&& 0o7777
        fileSize_lt := size.isLt.trans (by decide) }
  else .error (.transferError ⟨13, "open() " ++ filePath.toString ++ " for read failed"⟩)

/-- What is recorded for an entry. -/
inductive Recorded where
  | directory (di : BasicDirectoryInfo)
  | file (fi : BasicFileInfo)

namespace Recorded

def relativePath : Recorded → FilePath
  | directory di => di.relativePath
  | file fi      => fi.relativePath

def directory? : Recorded → Option BasicDirectoryInfo
  | directory di => some di
  | file _       => none

def file? : Recorded → Option BasicFileInfo
  | directory _ => none
  | file fi     => some fi

end Recorded

section Prepare

variable (fs : FileSystem) (dirPath : FilePath)

/-- `dir_name`. -/
def dirName : FilePath := FilePath.ofName dirPath.filename

/-- `dir_name / stdfs::relative(p.path(), dir_path)`. -/
def relativePath (path : FilePath) : Outcome PrepareError FilePath :=
  match fs.relative path dirPath with
  | .ok relative => .ok (dirName dirPath / relative)
  | .error _     => .error .filesystemError

/-- The body of the loop for an entry. Of an entry that is neither a directory nor a regular file,
such as a link that leads nowhere, the relative path is not used. -/
def recordEntry (entry : List String × Node) : Outcome PrepareError Recorded :=
  let path := dirPath / ⟨false, entry.1⟩
  match fs.status path with
  | .ok (.directory mode _ _) => do
    let relativePath ← relativePath fs dirPath path
    pure (.directory { relativePath := relativePath, posixPerm := mode &&& 0o7777 })
  | .ok (.regular size mode readable) => do
    let relativePath ← relativePath fs dirPath path
    let fi ← internalOpenRegularFile path size mode readable
    pure (.file { fi with relativePath := relativePath })
  | .ok .special | .ok (.link _) | .error .notFound =>
    .error (.transferError ⟨38, "Can't transfer special file: " ++ path.toString⟩)
  | .error .tooManyLinks => .error .filesystemError

/-- The record of the directory itself, unless it has no name. -/
def recordRoot (mode : ℕ) : List BasicDirectoryInfo :=
  if dirPath.filename = "" then []
  else [{ relativePath := dirName dirPath, posixPerm := mode &&& 0o7777 }]

/-- `prepare_transfer_directory`. -/
def prepareTransferDirectory : Outcome PrepareError ((F : ℕ) × BasicTransferInfo F) :=
  match fs.status dirPath with
  | .ok (.directory mode _ _) => do
    let records ← (fs.visited dirPath).mapM (recordEntry fs dirPath)
    let files := records.filterMap Recorded.file?
    pure ⟨files.length,
      { sourceIsDirectory := true
        dirsInfo := recordRoot dirPath mode ++ records.filterMap Recorded.directory?
        filesInfo := files.get }⟩
  | _ => .error .filesystemError

end Prepare

/-! ### The shape of a copy -/

/-- The record is part of what the destination is told. -/
def InInfo {F : ℕ} (info : BasicTransferInfo F) : Recorded → Prop
  | .directory di => di ∈ info.dirsInfo
  | .file fi      => ∃ n, info.filesInfo n = fi

/-- Every entry is recorded under its own path below the directory, no two under the same, and all
that the destination creates is inside its directory. -/
structure KeepsShape (fs : FileSystem) (dirPath : FilePath) {F : ℕ} (info : BasicTransferInfo F) :
    Prop where
  recorded : ∀ entry ∈ fs.visited dirPath, ∃ r, recordEntry fs dirPath entry = ok r ∧
    InInfo info r ∧ r.relativePath = dirName dirPath / ⟨false, entry.1⟩
  distinct : (fs.visited dirPath).Pairwise fun entry entry' => ∀ r r',
    recordEntry fs dirPath entry = ok r → recordEntry fs dirPath entry' = ok r' →
    r.relativePath ≠ r'.relativePath
  directories_inside : ∀ dst, ∀ di ∈ info.dirsInfo, FilePath.Inside dst (dst / di.relativePath)
  files_inside : ∀ dst n, FilePath.Inside dst (dst / (info.filesInfo n).relativePath)

variable {fs : FileSystem} {dirPath : FilePath} {F : ℕ} {info : BasicTransferInfo F}

/-- What is recorded for an entry is its relative path. -/
lemma recordEntry_ok {entry : List String × Node} {r : Recorded}
    (h : recordEntry fs dirPath entry = ok r) :
    relativePath fs dirPath (dirPath / ⟨false, entry.1⟩) = ok r.relativePath := by
  unfold recordEntry at h
  simp only at h
  split at h
  · obtain ⟨relative, hrelative, h⟩ := bind_eq_ok.mp h
    cases h
    exact hrelative
  · obtain ⟨relative, hrelative, h⟩ := bind_eq_ok.mp h
    obtain ⟨fi, -, h⟩ := bind_eq_ok.mp h
    cases h
    exact hrelative
  all_goals cases h

lemma relativePath_ok {path relative : FilePath} (h : relativePath fs dirPath path = ok relative) :
    ∃ loc dir, fs.canonical path = .ok loc ∧ fs.canonical dirPath = .ok dir ∧
      relative = dirName dirPath / FilePath.lexicallyRelative ⟨true, loc⟩ ⟨true, dir⟩ := by
  unfold relativePath FileSystem.relative at h
  cases hloc : fs.canonical path with
  | error e => rw [hloc] at h; cases h
  | ok loc =>
    cases hdir : fs.canonical dirPath with
    | error e => rw [hloc, hdir] at h; cases h
    | ok dir =>
      rw [hloc, hdir] at h
      cases h
      exact ⟨loc, dir, rfl, rfl, rfl⟩

/-- A preparation that succeeds has found a directory and recorded every entry that it visited. -/
lemma prepareTransferDirectory_ok
    (h : prepareTransferDirectory fs dirPath = ok ⟨F, info⟩) :
    ∃ dir mode readable entries, ∃ records : List Recorded, fs.canonical dirPath = .ok dir ∧
      fs.root.find dir = some (.directory mode readable entries) ∧
      fs.visited dirPath = (Node.directory mode readable entries).visited [] ∧
      (∀ entry ∈ fs.visited dirPath, ∃ r ∈ records, recordEntry fs dirPath entry = ok r) ∧
      (∀ r ∈ records, ∃ entry ∈ fs.visited dirPath, recordEntry fs dirPath entry = ok r) ∧
      info.dirsInfo = recordRoot dirPath mode ++ records.filterMap Recorded.directory? ∧
      ∀ fi, (∃ n, info.filesInfo n = fi) ↔ Recorded.file fi ∈ records := by
  unfold prepareTransferDirectory at h
  split at h
  · next mode readable entries hstatus =>
    obtain ⟨records, hrecords, h⟩ := bind_eq_ok.mp h
    obtain ⟨dir, hdir, hfind⟩ := FileSystem.status_eq_ok hstatus
    cases h
    obtain ⟨hall, hof⟩ := mem_of_mapM_eq_ok hrecords
    refine ⟨dir, mode, readable, entries, records, hdir, hfind, ?_, hall, hof, rfl, fun fi => ?_⟩
    · rw [FileSystem.visited, hstatus]
    · have hfile : ∀ r : Recorded, r.file? = some fi ↔ r = .file fi := fun r => by
        cases r <;> simp [Recorded.file?]
      change (∃ n, (records.filterMap Recorded.file?).get n = fi) ↔ _
      rw [← List.mem_iff_get, List.mem_filterMap]
      simp [hfile]
  · cases h

/-! ### When the shape is kept -/

/-- No entry that the walk visits is a symbolic link, and the argument does not end in `..`. -/
def Regular (fs : FileSystem) (dirPath : FilePath) : Prop :=
  (∀ entry ∈ fs.visited dirPath, ¬ entry.2.IsLink) ∧ dirPath.filename ≠ ".."

lemma dirName_append (dirPath : FilePath) {q : List String} (hne : q ≠ []) :
    dirName dirPath / ⟨false, q⟩ = ⟨false, (dirName dirPath).names ++ q⟩ :=
  FilePath.append_eq hne

/-- The own path of an entry below the directory. -/
lemma relative_of_not_link {dir q : List String} {d m : Node} (hdir : fs.canonical dirPath = .ok dir)
    (hd : fs.root.find dir = some d) (hd' : d.IsDirectory) (hne : q ≠ [])
    (hm : d.find q = some m) (hlink : ¬ m.IsLink) :
    relativePath fs dirPath (dirPath / ⟨false, q⟩) = ok (dirName dirPath / ⟨false, q⟩) := by
  have hq := Node.find_plain (Node.find_wellFormed fs.wellFormed hd) hm
  have hcanonical := FileSystem.canonical_of_find hdir hd hd' hne hm hlink
  have hrelative : fs.relative (dirPath / ⟨false, q⟩) dirPath = .ok ⟨false, q⟩ := by
    rw [FileSystem.relative, hcanonical, hdir]
    exact congrArg Except.ok (FilePath.lexicallyRelative_append hq hne)
  rw [relativePath, hrelative]

/-- A link is not recorded under its own path. -/
lemma relative_of_link {dir q : List String} {d m : Node} (hdir : fs.canonical dirPath = .ok dir)
    (hd : fs.root.find dir = some d) (hd' : d.IsDirectory) (hne : q ≠ [])
    (hm : d.find q = some m) (hlink : m.IsLink) :
    relativePath fs dirPath (dirPath / ⟨false, q⟩) ≠ ok (dirName dirPath / ⟨false, q⟩) := by
  intro h
  have hq := Node.find_plain (Node.find_wellFormed fs.wellFormed hd) hm
  obtain ⟨loc, dir', hloc, hdir', heq⟩ := relativePath_ok h
  cases hdir.symm.trans hdir'
  obtain ⟨hloc', m', hm'⟩ := FileSystem.canonical_of_link hdir hd hd' hne hm hlink hloc
  have hplain := Node.find_plain fs.wellFormed hd
  apply hloc'
  apply FilePath.eq_append_of_lexicallyRelative hplain hq
  exact FilePath.elems_eq_of_append_eq (by simp) hq hne heq.symm

/-- What is visited is below the directory. -/
lemma mem_visited {dir : List String} {d : Node} (hd : fs.root.find dir = some d)
    (hvisited : fs.visited dirPath = d.visited []) {entry : List String × Node}
    (hentry : entry ∈ fs.visited dirPath) : entry.1 ≠ [] ∧ d.find entry.1 = some entry.2 ∧
      ∀ n ∈ entry.1, FilePath.Plain n := by
  have hwf := Node.find_wellFormed fs.wellFormed hd
  rw [hvisited] at hentry
  obtain ⟨q, hne, heq, hq⟩ := d.mem_visited hwf hentry
  rw [List.nil_append] at heq
  rw [heq]
  exact ⟨hne, hq, Node.find_plain hwf hq⟩

/-- A walk that meets no link records every entry under its own path. -/
lemma recordEntry_own (hregular : Regular fs dirPath) {dir : List String} {d : Node}
    (hdir : fs.canonical dirPath = .ok dir) (hd : fs.root.find dir = some d) (hd' : d.IsDirectory)
    (hvisited : fs.visited dirPath = d.visited []) {entry : List String × Node}
    (hentry : entry ∈ fs.visited dirPath) {r : Recorded}
    (hr : recordEntry fs dirPath entry = ok r) :
    r.relativePath = dirName dirPath / ⟨false, entry.1⟩ := by
  obtain ⟨hne, hfind, -⟩ := mem_visited hd hvisited hentry
  have hown := relative_of_not_link hdir hd hd' hne hfind (hregular.1 entry hentry)
  rw [recordEntry_ok hr] at hown
  exact Outcome.ok.inj hown

/-- What is joined to a name that does not go up stays inside. -/
lemma inside_dirName (hup : dirPath.filename ≠ "..") (dst : FilePath) {q : List String}
    (hq : ∀ n ∈ q, FilePath.Plain n) (hne : (dirName dirPath).names ++ q ≠ []) :
    FilePath.Inside dst (dst / ⟨false, (dirName dirPath).names ++ q⟩) := by
  refine FilePath.inside_append dst hne fun hmem => ?_
  rcases List.mem_append.mp hmem with hmem | hmem
  · simp only [dirName, FilePath.ofName, FilePath.names_mk] at hmem
    split_ifs at hmem with hempty
    · cases hmem
    · simp only [List.mem_filter, List.mem_singleton] at hmem
      exact hup hmem.1.symm
  · exact (hq ".." hmem).2.2 rfl

/-- The copy of a directory keeps its shape and stays inside the destination exactly if the walk
over it meets no link and the argument does not end in `..`. -/
theorem keepsShape_iff (h : prepareTransferDirectory fs dirPath = ok ⟨F, info⟩) :
    KeepsShape fs dirPath info ↔ Regular fs dirPath := by
  obtain ⟨dir, mode, readable, entries, records, hdir, hd, hvisited, hall, hof, hdirs, hfiles⟩ :=
    prepareTransferDirectory_ok h
  constructor
  · intro hkeeps
    refine ⟨fun entry hentry hlink => ?_, fun hup => ?_⟩
    · obtain ⟨r, hr, -, hown⟩ := hkeeps.recorded entry hentry
      obtain ⟨hne, hfind, -⟩ := mem_visited hd hvisited hentry
      apply relative_of_link hdir hd trivial hne hfind hlink
      rw [recordEntry_ok hr, hown]
    · have hroot : ({ relativePath := FilePath.ofName "..", posixPerm := mode &&& 0o7777 } :
          BasicDirectoryInfo) ∈ info.dirsInfo := by
        rw [hdirs, recordRoot, dirName, hup]
        simp
      exact FilePath.not_inside_up (hkeeps.directories_inside ⟨false, ["d"]⟩ _ hroot)
  · intro hregular
    have hown : ∀ {entry r}, entry ∈ fs.visited dirPath → recordEntry fs dirPath entry = ok r →
        r.relativePath = dirName dirPath / ⟨false, entry.1⟩ := fun hentry hr =>
      recordEntry_own hregular hdir hd trivial hvisited hentry hr
    have hplace : ∀ r ∈ records, ∀ dst : FilePath, FilePath.Inside dst (dst / r.relativePath) := by
      intro r hr dst
      obtain ⟨entry, hentry, hr⟩ := hof r hr
      obtain ⟨hne, -, hplain⟩ := mem_visited hd hvisited hentry
      rw [hown hentry hr, dirName_append dirPath hne]
      exact inside_dirName hregular.2 dst hplain (by simp [hne])
    refine ⟨fun entry hentry => ?_, ?_, fun dst di hdi => ?_, fun dst n => ?_⟩
    · obtain ⟨r, hmem, hr⟩ := hall entry hentry
      refine ⟨r, hr, ?_, hown hentry hr⟩
      cases r with
      | directory di =>
        rw [InInfo, hdirs]
        exact List.mem_append_right _ (List.mem_filterMap.mpr ⟨_, hmem, rfl⟩)
      | file fi => exact (hfiles fi).mpr hmem
    · have hwf := Node.find_wellFormed fs.wellFormed hd
      have hpairwise := (Node.directory mode readable entries).visited_pairwise hwf []
      rw [← hvisited] at hpairwise
      refine hpairwise.imp_of_mem fun {entry entry'} he he' hne r r' hr hr' heq => hne ?_
      rw [hown he hr, hown he' hr', dirName_append dirPath (mem_visited hd hvisited he).1,
        dirName_append dirPath (mem_visited hd hvisited he').1] at heq
      simpa using heq
    · rw [hdirs, List.mem_append] at hdi
      rcases hdi with hdi | hdi
      · unfold recordRoot at hdi
        split_ifs at hdi with hempty
        · cases hdi
        · obtain rfl := List.mem_singleton.mp hdi
          have hnames : (dirName dirPath).names = [dirPath.filename] := by
            simp [dirName, FilePath.ofName, hempty]
          have hroot : dirName dirPath = ⟨false, (dirName dirPath).names ++ []⟩ := by
            rw [hnames]
            simp [dirName, FilePath.ofName, hempty]
          rw [hroot]
          exact inside_dirName hregular.2 dst (by nofun) (by rw [hnames]; nofun)
      · obtain ⟨r, hr, hdi⟩ := List.mem_filterMap.mp hdi
        cases r with
        | directory =>
          cases hdi
          exact hplace _ hr dst
        | file => cases hdi
    · exact hplace _ ((hfiles _).mp ⟨n, rfl⟩) dst

/-! ### Examples -/

/-- The root directory with `/d`, which holds the file `a` and the entry `b`, and the file `/x`. -/
def exampleRoot (b : Node) : Node :=
  .directory 0o755 true
    (.cons "d" (.directory 0o755 true (.cons "a" (.regular 1 0o644 true) (.cons "b" b .nil)))
      (.cons "x" (.regular 1 0o600 true) .nil))

lemma exampleRoot_wellFormed {b : Node} (hb : b.WellFormed) : (exampleRoot b).WellFormed := by
  simp [exampleRoot, Node.WellFormed, Entries.WellFormed, Entries.lookup, FilePath.Plain, hb]

/-- A file system whose `/d/b` is a file. -/
def exampleFiles : FileSystem where
  root := exampleRoot (.regular 1 0o644 true)
  workingDirectory := []
  linkLimit := 40
  isDirectory := trivial
  wellFormed := exampleRoot_wellFormed trivial
  workingDirectory_isDirectory := ⟨_, rfl, trivial⟩

/-- A file system whose `/d/b` is a link to `/x`. -/
def exampleLink : FileSystem where
  root := exampleRoot (.link ⟨true, ["x"]⟩)
  workingDirectory := []
  linkLimit := 40
  isDirectory := trivial
  wellFormed := exampleRoot_wellFormed trivial
  workingDirectory_isDirectory := ⟨_, rfl, trivial⟩

/-- The copy of `d/` with two files keeps its shape. -/
theorem keepsShape_exampleFiles :
    ∃ F info, prepareTransferDirectory exampleFiles ⟨false, ["d", ""]⟩ = ok ⟨F, info⟩ ∧
      (KeepsShape exampleFiles ⟨false, ["d", ""]⟩ info ↔ Regular exampleFiles ⟨false, ["d", ""]⟩) :=
  ⟨_, _, rfl, keepsShape_iff rfl⟩

/-- The link in `d/` is recorded as `../x`, which is outside of every destination. -/
theorem not_keepsShape_exampleLink :
    ∃ F info, prepareTransferDirectory exampleLink ⟨false, ["d", ""]⟩ = ok ⟨F, info⟩ ∧
      (∃ n, (info.filesInfo n).relativePath = ⟨false, ["..", "x"]⟩) ∧
      ¬ KeepsShape exampleLink ⟨false, ["d", ""]⟩ info := by
  refine ⟨_, _, rfl, ⟨⟨1, by decide⟩, rfl⟩, fun h => ?_⟩
  obtain ⟨-, rest, hrest, -⟩ := h.files_inside ⟨true, ["dst"]⟩ ⟨1, by decide⟩
  have hfile : FilePath.normal ((⟨true, ["dst"]⟩ : FilePath) / (⟨false, ["..", "x"]⟩ : FilePath)) = ["x"] := by
    decide
  have hdst : FilePath.normal ⟨true, ["dst"]⟩ = ["dst"] := by decide
  have heq := hfile.symm.trans hrest
  rw [hdst] at heq
  simp at heq

end Source

end Xcp
