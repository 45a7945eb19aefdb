import Xcp.Library.DirectoryTree
import Xcp.Transfer.DestinationPrepare

/-!
# Reproducing a directory

The preparation of a directory below an empty one that belongs to an unprivileged user. Directories
get their final modes before anything is created in them, so a directory that its owner may not
write into stays empty; and permissions `0` of a file stand for permissions that are not known.
What becomes of the set-ID bits is up to the system: a user outside the group of a file cannot give it
the set-group-ID bit.
-/

namespace Xcp

open Outcome DirectoryTree

namespace DestinationPrepare

/-- An empty directory of an unprivileged user: its path and its mode, the mask of the process, whether
`chmod` and `fchmod` with some mode drop the set-group-ID bit at a location, because its group is not
one of the user's, which set-user-ID and set-group-ID bits a file with some mode loses when its size
is set, and the descriptors and addresses that are handed out. -/
structure OwnedDirectory (F : ℕ) where
  path : FilePath
  mode : ℕ
  umask : ℕ
  dropped : List String → ℕ → ℕ
  cleared : ℕ → ℕ
  fd : Fin F → Fd
  addr : Fin F → ℕ
  fd_injective : Function.Injective fd

/-- What is below the directory, and where the files that are open are. -/
structure TreeState where
  tree : DirectoryTree
  opened : Fd → Option (List String) := fun _ => none

/-- With a file of this mode at a location, open under a descriptor. -/
def TreeState.withFile (s : TreeState) (fd : Fd) (loc : List String) (mode : ℕ) : TreeState where
  tree := Function.update s.tree loc (some (.file mode))
  opened := Function.update s.opened fd (some loc)

/-- A call that changes the tree. -/
def TreeState.change (s : TreeState) (op : DirectoryTree → Except ℕ DirectoryTree) :
    Except ℕ Unit × TreeState :=
  match op s.tree with
  | .ok T    => (.ok (), { s with tree := T })
  | .error e => (.error e, s)

/-- A call that changes the mode of an open file. -/
def TreeState.changeOpened (s : TreeState) (fd : Fd) (f : List String → ℕ → ℕ) :
    Except ℕ Unit × TreeState :=
  s.change fun T =>
    match s.opened fd with
    | none => .error 9
    | some loc =>
      match T loc with
      | some (.file mode) => T.setMode loc (f loc mode)
      | _                 => .error 22

/-- The error of a call of the library is not told. -/
def quiet (r : Except ℕ Unit × TreeState) : Except Unit Unit × TreeState :=
  (r.1.mapError fun _ => (), r.2)

namespace OwnedDirectory

variable {F : ℕ} (d : OwnedDirectory F)

/-- The names behind the path of the directory. -/
def below (p : FilePath) : List String := p.names.drop d.path.names.length

/-- The mode of what is at a location when it has been set. -/
def chmodded (loc : List String) (mode : ℕ) : ℕ := masked (d.dropped loc mode &&& 0o2000) mode

/-- The mode that a file has when its size has been set. -/
def truncated (mode : ℕ) : ℕ := masked (d.cleared mode &&& 0o6000) mode

/-- The system with this directory. -/
def system : System TreeState F where
  weaklyCanonical p s := (.ok p, s)
  status _ s := (.ok .directory, s)
  createDirectory _ s := (.error (), s)
  createDirectories _ p s := quiet (s.change (·.createDirectories d.umask [] (d.below p)))
  permissions _ p perm s := quiet (s.change (·.chmod (d.below p)
    (d.chmodded ((d.below p).filter (· ≠ ".")) (perm &&& 0o7777))))
  openFile n p perm s :=
    match s.tree.openFile d.umask (d.below p) perm with
    | .ok (loc, T) => (.ok (d.fd n),
      { tree := T, opened := Function.update s.opened (d.fd n) (some loc) })
    | .error e => (.error e, s)
  fchmod _ fd perm s := s.changeOpened fd fun loc _ => d.chmodded loc perm
  ftruncate _ fd _ s := s.changeOpened fd fun _ => d.truncated
  mmap n _ _ s := (.ok (d.addr n), s)

/-- Before the preparation. -/
def initial : TreeState where
  tree := empty d.mode

end OwnedDirectory

/-- The location below the destination that a relative path spells. -/
def location (p : FilePath) : List String := p.names.filter (· ≠ ".")

variable {F : ℕ}

section Items

variable (info : BasicTransferInfo F) (mode : Fin F → ℕ)

def directoryItem (di : BasicDirectoryInfo) : List String × TreeEntry :=
  (location di.relativePath, .directory di.posixPerm)

def fileItem (n : Fin F) : List String × TreeEntry :=
  (location (info.filesInfo n).relativePath, .file (mode n))

/-- The directories that are listed below the destination itself. -/
def directoriesBelow : List BasicDirectoryInfo :=
  info.dirsInfo.filter (location ·.relativePath ≠ [])

/-- What is listed below the destination itself, where a file has this mode. -/
def items : List (List String × TreeEntry) :=
  (directoriesBelow info).map directoryItem ++ (List.finRange F).map (fileItem info mode)

end Items

/-- A relative path that a sender lists. -/
structure ListedPath (p : FilePath) : Prop where
  relative : p.absolute = false
  ne_nil : p.names ≠ []
  not_up : ".." ∉ p.names
  dot_first : "." ∉ p.names.tail

/-- What a sender lists of a tree. The directory itself may be listed as `.`, in the first place. A
listing with `..` or with a path twice, which symbolic links in the tree lead to, is not one of a
tree. -/
structure Listed (info : BasicTransferInfo F) : Prop where
  directory : ∀ di ∈ info.dirsInfo, ListedPath di.relativePath
  file : ∀ n, ListedPath (info.filesInfo n).relativePath
  directory_perm : ∀ di ∈ info.dirsInfo, di.posixPerm &&& 0o7777 = di.posixPerm
  file_perm : ∀ n, ¬ Destination.ExtraPerm (info.filesInfo n).posixPerm
  top_first : ∀ di ∈ info.dirsInfo.tail, location di.relativePath ≠ []
  listing : Listing (items info fun n => (info.filesInfo n).posixPerm)

/-- Everything that is listed is there with its mode, and every file is open. -/
structure Reproduces (d : OwnedDirectory F) (info : BasicTransferInfo F)
    (r : Outcome PrepareError Unit × Preparation TreeState) : Prop where
  ok : r.1 = ok ()
  directory : ∀ di ∈ info.dirsInfo,
    r.2.system.tree (location di.relativePath) = some (.directory di.posixPerm)
  file : ∀ n, r.2.system.tree (location (info.filesInfo n).relativePath) =
    some (.file (info.filesInfo n).posixPerm)
  opened : ∀ n, r.2.system.opened (d.fd n) = some (location (info.filesInfo n).relativePath)

namespace OwnedDirectory

variable (d : OwnedDirectory F) (info : BasicTransferInfo F)

/-- The mode of a directory: the one that is listed, or that of the destination. -/
def modeOf (loc : List String) : ℕ :=
  ((info.dirsInfo.find? (location ·.relativePath = loc)).map (·.posixPerm)).getD d.mode

/-- The mode that a listed directory is given. -/
def dirMode (di : BasicDirectoryInfo) : ℕ := d.chmodded (location di.relativePath) di.posixPerm

/-- The mode that a directory has in the end. -/
def madeMode (loc : List String) : ℕ :=
  ((info.dirsInfo.find? (location ·.relativePath = loc)).map d.dirMode).getD d.mode

/-- The mode with which a file is opened. -/
def permOf (n : Fin F) : ℕ :=
  if (info.filesInfo n).posixPerm = 0 then 0o644 else (info.filesInfo n).posixPerm

/-- The mode that an open file is given. -/
def openedMode (n : Fin F) : ℕ :=
  d.chmodded (location (info.filesInfo n).relativePath) (permOf info n)

/-- The mode that a file has in the end. -/
def fileMode (n : Fin F) : ℕ :=
  if 0 < info.fileSize n then d.truncated (d.openedMode info n) else d.openedMode info n

def madeDirectory (di : BasicDirectoryInfo) : List String × TreeEntry :=
  (location di.relativePath, .directory (d.dirMode di))

/-- What there is below the destination in the end. -/
def madeItems : List (List String × TreeEntry) :=
  (directoriesBelow info).map d.madeDirectory ++
    (List.finRange F).map (fileItem info (d.fileMode info))

/-- The modes with which a tree can be reproduced. -/
structure Reproducible : Prop where
  top : (∃ di ∈ info.dirsInfo, location di.relativePath = []) → Searchable d.mode
  directory : ∀ di ∈ info.dirsInfo, location di.relativePath ≠ [] →
    Writable (d.modeOf info (location di.relativePath).dropLast)
  file : ∀ n, Writable (d.modeOf info (location (info.filesInfo n).relativePath).dropLast)
  file_perm : ∀ n, (info.filesInfo n).posixPerm ≠ 0
  directory_set : ∀ di ∈ info.dirsInfo,
    d.chmodded (location di.relativePath) di.posixPerm = di.posixPerm
  file_set : ∀ n, d.chmodded (location (info.filesInfo n).relativePath)
    (info.filesInfo n).posixPerm = (info.filesInfo n).posixPerm
  truncated : ∀ n, 0 < info.fileSize n →
    d.truncated (info.filesInfo n).posixPerm = (info.filesInfo n).posixPerm

end OwnedDirectory

/-! ### Listed paths -/

namespace ListedPath

variable {p : FilePath}

lemma leads (h : ListedPath p) (hne : location p ≠ []) : Leads p.names (location p) := by
  obtain ⟨n, rest, hnames⟩ := List.exists_cons_of_ne_nil h.ne_nil
  have hrest : "." ∉ rest := by simpa [hnames] using h.dot_first
  have hfilter : rest.filter (· ≠ ".") = rest :=
    List.filter_eq_self.mpr fun n' hn' => by simpa using fun heq : n' = "." => hrest (heq ▸ hn')
  refine ⟨hne, by simp [location], ?_⟩
  by_cases hn : n = "."
  · refine .inr ?_
    rw [location, hnames, hn, List.filter_cons_of_neg (by simp), hfilter]
  · refine .inl ?_
    rw [location, hnames, List.filter_cons_of_pos (by simpa using hn), hfilter]

/-- The directory itself is listed as `.`. -/
lemma names_of_top (h : ListedPath p) (htop : location p = []) : p.names = ["."] := by
  obtain ⟨n, rest, hnames⟩ := List.exists_cons_of_ne_nil h.ne_nil
  have hall : ∀ n' ∈ n :: rest, n' = "." := by
    simpa [location, hnames, List.filter_eq_nil_iff] using htop
  have hrest : rest = [] := by
    refine List.eq_nil_iff_forall_not_mem.mpr fun n' hn' => ?_
    have hdot : "." ∉ rest := by simpa [hnames] using h.dot_first
    exact hdot (hall n' (List.mem_cons_of_mem n hn') ▸ hn')
  rw [hnames, hrest, hall n List.mem_cons_self]

end ListedPath

namespace OwnedDirectory

variable {d : OwnedDirectory F} {info : BasicTransferInfo F}

/-- The modes make no difference to a listing. -/
lemma listing_madeItems (h : Listed info) : Listing (d.madeItems info) := by
  refine h.listing.of_map_fst ?_ fun loc m hmem => ?_
  · simp [madeItems, items, fileItem, madeDirectory, directoryItem, Function.comp_def]
  · rw [items, List.mem_append] at hmem
    rcases hmem with hdir | hfile
    · obtain ⟨di, hdi, heq⟩ := List.mem_map.mp hdir
      cases heq
      exact ⟨_, List.mem_append_left _ (List.mem_map_of_mem (f := d.madeDirectory) hdi)⟩
    · simp [fileItem] at hfile

lemma below_append {q : FilePath} (hq : q.absolute = false) : d.below (d.path / q) = q.names := by
  rw [below, FilePath.names_append hq, List.drop_left]

/-! ### One directory and one file -/

/-- A directory is created with its mode, or the preparation does not go on. -/
lemma receiveDirectory_run {di : BasicDirectoryInfo × ℕ} (h : ListedPath di.1.relativePath)
    (hperm : di.1.posixPerm &&& 0o7777 = di.1.posixPerm) (p : Preparation TreeState) :
    (∃ T, p.system.tree.makeDirectory d.umask di.1.relativePath.names (d.dirMode di.1) = .ok T ∧
      receiveDirectory d.system d.path di p =
        (ok (), { p with system := { p.system with tree := T } })) ∨
    ((∀ T, p.system.tree.makeDirectory d.umask di.1.relativePath.names (d.dirMode di.1) ≠ .ok T) ∧
      (receiveDirectory d.system d.path di p).1 ≠ ok ()) := by
  have hcreate : ∀ s, d.system.createDirectories di.2 (d.path / di.1.relativePath) s =
      quiet (s.change (·.createDirectories d.umask [] di.1.relativePath.names)) := fun s => by
    rw [← below_append (d := d) h.relative]
    rfl
  have hchmod : ∀ s, d.system.permissions di.2 (d.path / di.1.relativePath) di.1.posixPerm s =
      quiet (s.change (·.chmod di.1.relativePath.names (d.dirMode di.1))) := fun s => by
    rw [dirMode, location, ← below_append (d := d) h.relative]
    change quiet (s.change (·.chmod _ (d.chmodded _ (di.1.posixPerm &&& 0o7777)))) = _
    rw [hperm]
  unfold makeDirectory
  unfold receiveDirectory
  cases hdirs : p.system.tree.createDirectories d.umask [] di.1.relativePath.names with
  | error e =>
    refine .inr ⟨by nofun, ?_⟩
    have hrun : library (d.system.createDirectories di.2 (d.path / di.1.relativePath)) p =
        (error .filesystemError, p) :=
      library_eq_error (e := ()) (by rw [hcreate, TreeState.change, hdirs]; rfl)
    rw [Effect.bind_of_error hrun]
    nofun
  | ok T =>
    have hrun : library (d.system.createDirectories di.2 (d.path / di.1.relativePath)) p =
        (ok (), { p with system := { p.system with tree := T } }) :=
      library_eq_ok (by rw [hcreate, TreeState.change, hdirs]; rfl)
    rw [Effect.bind_of_ok hrun]
    change (∃ T', T.chmod _ _ = .ok T' ∧ _) ∨ ((∀ T', T.chmod _ _ ≠ .ok T') ∧ _)
    cases hmode : T.chmod di.1.relativePath.names (d.dirMode di.1) with
    | error e =>
      refine .inr ⟨by nofun, ?_⟩
      rw [library_eq_error (e := ()) (by rw [hchmod, TreeState.change, hmode]; rfl)]
      nofun
    | ok T' =>
      exact .inl ⟨T', rfl, library_eq_ok (by rw [hchmod, TreeState.change, hmode]; rfl)⟩

lemma changeOpened_withFile (s : TreeState) (fd : Fd) (loc : List String) (mode : ℕ)
    (f : List String → ℕ → ℕ) :
    (s.withFile fd loc mode).changeOpened fd f = (.ok (), s.withFile fd loc (f loc mode)) := by
  have hmode : (s.withFile fd loc mode).tree.setMode loc (f loc mode) =
      .ok (s.withFile fd loc (f loc mode)).tree := by
    simp [TreeState.withFile, setMode, TreeEntry.withMode]
  have hopened : (s.withFile fd loc mode).opened fd = some loc := Function.update_self ..
  have hloc : (s.withFile fd loc mode).tree loc = some (.file mode) := Function.update_self ..
  simp only [TreeState.changeOpened, TreeState.change, hopened, hloc, hmode]
  rfl

lemma createPerm_eq {n : Fin F} (h : ¬ Destination.ExtraPerm (info.filesInfo n).posixPerm) :
    createPerm (info.filesInfo n) = ok (permOf info n) := by
  unfold createPerm permOf
  split_ifs
  · rfl
  · rw [assert_of (not_not.mp h)]
    rfl

/-- A file is created with its final mode, or the preparation does not go on. -/
lemma receiveFile_run {n : Fin F} (h : ListedPath (info.filesInfo n).relativePath)
    (hperm : ¬ Destination.ExtraPerm (info.filesInfo n).posixPerm)
    (hne : location (info.filesInfo n).relativePath ≠ []) {p : Preparation TreeState}
    (hvacant : p.system.tree.Vacant (location (info.filesInfo n).relativePath)) :
    (∃ p', (∃ T, p.system.tree.add (location (info.filesInfo n).relativePath)
        (.file (d.fileMode info n)) = .ok T) ∧
      receiveFile d.system info n (d.path / (info.filesInfo n).relativePath) p = (ok (), p') ∧
      p'.system = p.system.withFile (d.fd n) (location (info.filesInfo n).relativePath)
        (d.fileMode info n)) ∨
    ((∀ T, p.system.tree.add (location (info.filesInfo n).relativePath)
        (.file (d.fileMode info n)) ≠ .ok T) ∧
      (receiveFile d.system info n (d.path / (info.filesInfo n).relativePath) p).1 ≠ ok ()) := by
  have hleads := h.leads hne
  have hset : d.openedMode info n =
      d.chmodded (location (info.filesInfo n).relativePath) (permOf info n) := rfl
  generalize hloc : location (info.filesInfo n).relativePath = loc at *
  have hopen : ∀ s : TreeState, d.system.openFile n (d.path / (info.filesInfo n).relativePath)
      (permOf info n) s =
        match s.tree.openFile d.umask (info.filesInfo n).relativePath.names (permOf info n) with
        | .ok (loc, T) => (.ok (d.fd n), ⟨T, Function.update s.opened (d.fd n) (some loc)⟩)
        | .error e => (.error e, s) := fun s => by
    rw [← below_append (d := d) h.relative]
    rfl
  have hopenFile := openFile_eq d.umask hleads hvacant (permOf info n)
  cases hadd : p.system.tree.add loc (.file (masked d.umask (permOf info n))) with
  | error e =>
    refine .inr ⟨fun T hT => ?_, ?_⟩
    · obtain ⟨hsearch, hwritable, -⟩ := (add_eq_ok hleads.2.1).mp hT
      cases hadd.symm.trans ((add_eq_ok hleads.2.1).mpr ⟨hsearch, hwritable, rfl⟩)
    · rw [hadd] at hopenFile
      obtain ⟨message, hrun⟩ := receiveFile_error (p := p) (s := p.system) (createPerm_eq hperm)
        (by rw [hopen, hopenFile]; rfl)
      rw [hrun]
      nofun
  | ok T =>
    obtain ⟨hsearch, hwritable, rfl⟩ := (add_eq_ok hleads.2.1).mp hadd
    rw [hadd] at hopenFile
    have hopened : d.system.openFile n (d.path / (info.filesInfo n).relativePath) (permOf info n)
        p.system = (.ok (d.fd n),
          p.system.withFile (d.fd n) loc (masked d.umask (permOf info n))) := by
      rw [hopen, hopenFile]
      rfl
    have hmap : (info.fileSize n = 0 ∧ p.system.withFile (d.fd n) loc (d.fileMode info n) =
          p.system.withFile (d.fd n) loc (d.openedMode info n)) ∨
        ∃ u addr, 0 < info.fileSize n ∧ d.system.ftruncate n (d.fd n) (info.fileSize n)
          (p.system.withFile (d.fd n) loc (d.openedMode info n)) = (.ok (), u) ∧
          d.system.mmap n (d.fd n) (info.fileSize n) u =
            (.ok addr, p.system.withFile (d.fd n) loc (d.fileMode info n)) := by
      unfold fileMode
      rcases Nat.eq_zero_or_pos (info.fileSize n) with hsize | hsize
      · rw [if_neg (by omega)]
        exact .inl ⟨hsize, rfl⟩
      · rw [if_pos hsize]
        exact .inr ⟨_, _, hsize, changeOpened_withFile .., rfl⟩
    have hfchmod : d.system.fchmod n (d.fd n) (permOf info n)
        (p.system.withFile (d.fd n) loc (masked d.umask (permOf info n))) =
          (.ok (), p.system.withFile (d.fd n) loc (d.openedMode info n)) := by
      rw [hset]
      exact changeOpened_withFile ..
    obtain ⟨p', hrun, hsystem⟩ := receiveFile_ok (p := p) (createPerm_eq hperm) hopened
      hfchmod hmap
    exact .inl ⟨p', ⟨_, (add_eq_ok hleads.2.1).mpr ⟨hsearch, hwritable, rfl⟩⟩, hrun, hsystem⟩

/-! ### The loops -/

/-- The loop over the directories creates all of them if each can be created. -/
lemma receiveDirectories_run (h : Listed info) {l : List (BasicDirectoryInfo × ℕ)}
    (hl : l.map Prod.fst = directoriesBelow info) {m : ℕ} {p : Preparation TreeState}
    (hp : p.system.tree = empty m) :
    ((∀ di ∈ l, ((empty m).plant (d.madeItems info)).ParentWritable (location di.1.relativePath)) ∧
      ∃ p', l.forM (receiveDirectory d.system d.path) p = (ok (), p') ∧
        p'.system.tree = (empty m).plant ((directoriesBelow info).map d.madeDirectory)) ∨
    (¬ (∀ di ∈ l,
        ((empty m).plant (d.madeItems info)).ParentWritable (location di.1.relativePath)) ∧
      (l.forM (receiveDirectory d.system d.path) p).1 ≠ ok ()) := by
  rw [← hl]
  refine Effect.forM_run (I := fun done (q : Preparation TreeState) =>
    q.system.tree = (empty m).plant ((done.map Prod.fst).map d.madeDirectory)) ?_ hp
  rintro before di after q rfl hbefore hq
  have hitems : d.madeItems info = (before.map Prod.fst).map d.madeDirectory ++ d.madeDirectory di.1 ::
      ((after.map Prod.fst).map d.madeDirectory ++ (List.finRange F).map (fileItem info (d.fileMode info))) := by
    rw [madeItems, ← hl]
    simp
  obtain ⟨hdi, hne⟩ : di.1 ∈ info.dirsInfo ∧ location di.1.relativePath ≠ [] := by
    have hmem : di.1 ∈ directoriesBelow info := hl ▸ by simp
    simpa [directoriesBelow] using hmem
  have hpath := h.directory di.1 hdi
  have hleads := hpath.leads hne
  have hdone : ∀ b ∈ (before.map Prod.fst).map d.madeDirectory,
      ((empty m).plant (d.madeItems info)).ParentWritable b.1 := by
    intro b hb
    obtain ⟨di', hdi', rfl⟩ := List.mem_map.mp hb
    obtain ⟨x, hx, rfl⟩ := List.mem_map.mp hdi'
    exact hbefore x hx
  have hadd := fun T => (listing_madeItems h).add_iff T hitems hleads.2.1 hdone
  have hmake := makeDirectory_eq d.umask hleads ((listing_madeItems h).vacant (m := m) hitems)
    (d.dirMode di.1)
  rcases receiveDirectory_run hpath (h.directory_perm di.1 hdi) q with
    ⟨T, hT, hrun⟩ | ⟨hT, hrun⟩
  · rw [hq, hmake] at hT
    obtain ⟨hwritable, rfl⟩ := (hadd T).mp hT
    exact .inl ⟨hwritable, _, hrun, by simp⟩
  · refine .inr ⟨fun hwritable => ?_, hrun⟩
    have hok := hmake.trans ((hadd _).mpr ⟨hwritable, rfl⟩)
    rw [← hq] at hok
    exact hT _ hok

/-- The loop over the files creates all of them if each can be created. -/
lemma receiveFiles_run (h : Listed info) {m : ℕ} {p : Preparation TreeState}
    (hp : p.system.tree = (empty m).plant ((directoriesBelow info).map d.madeDirectory))
    (hdirs : ∀ di ∈ directoriesBelow info,
      ((empty m).plant (d.madeItems info)).ParentWritable (location di.relativePath)) :
    ((∀ n ∈ List.finRange F, ((empty m).plant (d.madeItems info)).ParentWritable
        (location (info.filesInfo n).relativePath)) ∧
      ∃ p', (List.finRange F).forM (fun n =>
          receiveFile d.system info n (d.path / (info.filesInfo n).relativePath)) p = (ok (), p') ∧
        p'.system.tree = (empty m).plant (d.madeItems info) ∧
        ∀ n ∈ List.finRange F,
          p'.system.opened (d.fd n) = some (location (info.filesInfo n).relativePath)) ∨
    (¬ (∀ n ∈ List.finRange F, ((empty m).plant (d.madeItems info)).ParentWritable
        (location (info.filesInfo n).relativePath)) ∧
      ((List.finRange F).forM (fun n =>
        receiveFile d.system info n (d.path / (info.filesInfo n).relativePath)) p).1 ≠ ok ()) := by
  refine Effect.forM_run (I := fun done (q : Preparation TreeState) =>
    q.system.tree = (empty m).plant ((directoriesBelow info).map d.madeDirectory ++
      done.map (fileItem info (d.fileMode info))) ∧
    ∀ n ∈ done, q.system.opened (d.fd n) = some (location (info.filesInfo n).relativePath)) ?_
    ⟨by simpa using hp, by simp⟩
  rintro before n after q hn hbefore ⟨hq, hopened⟩
  have hitems : d.madeItems info = ((directoriesBelow info).map d.madeDirectory ++
      before.map (fileItem info (d.fileMode info))) ++ fileItem info (d.fileMode info) n ::
        after.map (fileItem info (d.fileMode info)) := by
    rw [madeItems, hn]
    simp
  have hlisting := listing_madeItems (d := d) h
  have hne : location (info.filesInfo n).relativePath ≠ [] :=
    hlisting.ne_nil (fileItem info (d.fileMode info) n) (by rw [hitems]; simp)
  have hleads := (h.file n).leads hne
  have hdone : ∀ b ∈ (directoriesBelow info).map d.madeDirectory ++
      before.map (fileItem info (d.fileMode info)),
      ((empty m).plant (d.madeItems info)).ParentWritable b.1 := by
    intro b hb
    rcases List.mem_append.mp hb with hb | hb
    · obtain ⟨di, hdi, rfl⟩ := List.mem_map.mp hb
      exact hdirs di hdi
    · obtain ⟨n', hn', rfl⟩ := List.mem_map.mp hb
      exact hbefore n' hn'
  have hadd := fun T => hlisting.add_iff T hitems hleads.2.1 hdone
  have hvacant : q.system.tree.Vacant (location (info.filesInfo n).relativePath) := by
    rw [hq]
    exact hlisting.vacant hitems
  rcases receiveFile_run (d := d) (h.file n) (h.file_perm n) hne hvacant with
    ⟨q', ⟨T, hT⟩, hrun, hsystem⟩ | ⟨hT, hrun⟩
  · rw [hq] at hT
    refine .inl ⟨((hadd T).mp hT).1, q', hrun, ?_, fun n' hn' => ?_⟩
    · rw [hsystem, TreeState.withFile, hq, List.map_append, ← List.append_assoc]
      exact (plant_append _ _ [fileItem info (d.fileMode info) n]).symm
    · rw [hsystem, TreeState.withFile]
      by_cases heq : n' = n
      · rw [heq]
        exact Function.update_self ..
      · have hmem : n' ∈ before := by simpa [heq] using hn'
        exact (Function.update_of_ne (fun hfd => heq (d.fd_injective hfd)) ..).trans
          (hopened n' hmem)
  · refine .inr ⟨fun hwritable => ?_, hrun⟩
    have hok := (hadd _).mpr ⟨hwritable, rfl⟩
    rw [← hq] at hok
    exact hT _ hok

/-! ### The whole preparation -/

variable (d info) in
/-- The preparation for `N` channels. -/
def run (N : ℕ) : Outcome PrepareError Unit × Preparation TreeState :=
  prepareTransferDirectory d.system d.path info (started d.initial N)

variable (d info) in
/-- The tree that the preparation leads to. -/
def finished : DirectoryTree :=
  (empty (d.madeMode info [])).plant (d.madeItems info)

variable (d info) in
/-- Everything that is listed can be created. -/
def Creates : Prop :=
  ((∃ di ∈ info.dirsInfo, location di.relativePath = []) → Searchable d.mode) ∧
    ∀ a ∈ d.madeItems info, (d.finished info).ParentWritable a.1

/-- The mode of the directory itself, which is listed as `.`. -/
lemma makeDirectory_top {m perm : ℕ} : (empty m).makeDirectory d.umask ["."] perm = (do
    (empty m).search []
    .ok (empty perm)) := by
  have hempty : Function.update (empty m) [] (some (.directory perm)) = empty perm := by
    funext loc
    by_cases hloc : loc = []
    · simp [hloc, empty]
    · simp [hloc, empty]
  have hset : (empty m).setMode [] perm = .ok (empty perm) := by
    rw [← hempty]
    rfl
  have htop : empty m [] = some (.directory m) := rfl
  simp only [makeDirectory, createDirectories, chmod, resolve, enter, if_true, htop]
  cases hsearch : (empty m).search [] with
  | error e => rfl
  | ok u =>
    change (((empty m).search [] >>= fun _ => .ok []) >>= fun loc => (empty m).setMode loc perm) = _
    rw [hsearch]
    exact hset

/-- If the directory itself is listed, it gets its mode first; what is left of the loop is about what
is below it. -/
lemma receiveTop_run (h : Listed info) (N : ℕ) :
    (((∃ di ∈ info.dirsInfo, location di.relativePath = []) → Searchable d.mode) ∧
      ∃ (l : List (BasicDirectoryInfo × ℕ)) (p : Preparation TreeState),
        l.map Prod.fst = directoriesBelow info ∧ p.system.tree = empty (d.madeMode info []) ∧
        info.dirsInfo.zipIdx.forM (receiveDirectory d.system d.path) (started d.initial N) =
          l.forM (receiveDirectory d.system d.path) p) ∨
    (¬ ((∃ di ∈ info.dirsInfo, location di.relativePath = []) → Searchable d.mode) ∧
      (info.dirsInfo.zipIdx.forM (receiveDirectory d.system d.path) (started d.initial N)).1 ≠
        ok ()) := by
  by_cases htop : ∃ di ∈ info.dirsInfo, location di.relativePath = []
  · obtain ⟨di, rest, hdirs, hdi, hrest⟩ : ∃ di rest, info.dirsInfo = di :: rest ∧
        location di.relativePath = [] ∧ ∀ di' ∈ rest, location di'.relativePath ≠ [] := by
      obtain ⟨di', hmem, hdi'⟩ := htop
      obtain ⟨di, rest, hdirs⟩ := List.exists_cons_of_ne_nil (List.ne_nil_of_mem hmem)
      have hrest : ∀ di ∈ rest, location di.relativePath ≠ [] := by
        simpa [hdirs] using h.top_first
      rw [hdirs] at hmem
      rcases List.mem_cons.mp hmem with rfl | hmem
      · exact ⟨_, rest, hdirs, hdi', hrest⟩
      · exact absurd hdi' (hrest di' hmem)
    have hmem : di ∈ info.dirsInfo := by simp [hdirs]
    have hpath := h.directory di hmem
    have hbelow : directoriesBelow info = rest := by
      rw [directoriesBelow, hdirs, List.filter_cons_of_neg (by simpa using hdi)]
      exact List.filter_eq_self.mpr fun di' hdi' => by simpa using hrest di' hdi'
    have hmode : d.madeMode info [] = d.dirMode di := by simp [madeMode, hdirs, hdi]
    rw [hbelow, hmode, hdirs, List.zipIdx_cons, Effect.forM_cons]
    have hmake : (started d.initial N).system.tree.makeDirectory d.umask di.relativePath.names
        (d.dirMode di) = ((empty d.mode).search [] >>= fun _ => .ok (empty (d.dirMode di))) := by
      rw [hpath.names_of_top hdi]
      exact makeDirectory_top
    have hexists : ∃ di' ∈ di :: rest, location di'.relativePath = [] := ⟨di, by simp, hdi⟩
    rcases @receiveDirectory_run F d (di, 0) hpath (h.directory_perm di hmem)
      (started d.initial N) with ⟨T, hT, hrun⟩ | ⟨hT, hrun⟩
    · rw [hmake] at hT
      cases hsearch : (empty d.mode).search [] with
      | error e =>
        rw [hsearch] at hT
        cases hT
      | ok u =>
        rw [hsearch] at hT
        cases hT
        obtain ⟨m, hm, hsearchable⟩ := search_eq_ok.mp hsearch
        cases hm
        exact .inl ⟨fun _ => hsearchable, rest.zipIdx 1, _, List.zipIdx_map_fst .., rfl,
          Effect.bind_of_ok hrun⟩
    · refine .inr ⟨fun hsearchable => ?_, ?_⟩
      · have hsearch : (empty d.mode).search [] = .ok () :=
          search_eq_ok.mpr ⟨d.mode, rfl, hsearchable hexists⟩
        refine hT (empty (d.dirMode di)) (hmake.trans ?_)
        rw [hsearch]
        rfl
      · exact Effect.bind_ne_ok hrun
  · refine .inl ⟨fun h => absurd h htop, info.dirsInfo.zipIdx, started d.initial N, ?_, ?_, rfl⟩
    · rw [List.zipIdx_map_fst, directoriesBelow]
      exact (List.filter_eq_self.mpr fun di hdi => by
        simpa using fun heq => htop ⟨di, hdi, heq⟩).symm
    · have hmode : d.madeMode info [] = d.mode := by
        have hnone : info.dirsInfo.find? (location ·.relativePath = []) = none :=
          List.find?_eq_none.mpr fun di hdi => by simpa using fun heq => htop ⟨di, hdi, heq⟩
        rw [madeMode, hnone]
        rfl
      rw [hmode]
      rfl

/-- The preparation succeeds exactly if everything can be created, and has then created it. -/
lemma run_cases (h : Listed info) (N : ℕ) :
    (d.Creates info ∧ (d.run info N).1 = ok () ∧ (d.run info N).2.system.tree = d.finished info ∧
      ∀ n, (d.run info N).2.system.opened (d.fd n) =
        some (location (info.filesInfo n).relativePath)) ∨
    (¬ d.Creates info ∧ (d.run info N).1 ≠ ok ()) := by
  have hitem : ∀ a, a ∈ d.madeItems info ↔
      (∃ di ∈ directoriesBelow info, d.madeDirectory di = a) ∨
        ∃ n, fileItem info (d.fileMode info) n = a := fun a => by simp [madeItems]
  rcases receiveTop_run (d := d) h N with ⟨htop, l, p, hl, hp, hrun⟩ | ⟨htop, hne⟩
  · have hbelow : ∀ di, di ∈ directoriesBelow info ↔ ∃ x ∈ l, x.1 = di := fun di => by
      rw [← hl, List.mem_map]
    rcases receiveDirectories_run (d := d) h hl hp with
      ⟨hdirs, p', hrun', hp'⟩ | ⟨hdirs, hne⟩
    · have hdirs' : ∀ di ∈ directoriesBelow info,
          (d.finished info).ParentWritable (location di.relativePath) := fun di hdi => by
        obtain ⟨x, hx, rfl⟩ := (hbelow di).mp hdi
        exact hdirs x hx
      have hstart : d.run info N = ((List.finRange F).forM (fun n =>
          receiveFile d.system info n (d.path / (info.filesInfo n).relativePath)) p') :=
        Effect.bind_of_ok (hrun.trans hrun')
      rcases receiveFiles_run (d := d) h hp' hdirs' with
        ⟨hfiles, p'', hrun'', htree, hopened⟩ | ⟨hfiles, hne⟩
      · refine .inl ⟨⟨htop, fun a ha => ?_⟩, ?_⟩
        · rcases (hitem a).mp ha with ⟨di, hdi, rfl⟩ | ⟨n, rfl⟩
          · exact hdirs' di hdi
          · exact hfiles n (List.mem_finRange n)
        · rw [hstart, hrun'']
          exact ⟨rfl, htree, fun n => hopened n (List.mem_finRange n)⟩
      · rw [hstart]
        exact .inr ⟨fun hall => hfiles fun n _ => hall.2 _ ((hitem _).mpr (.inr ⟨n, rfl⟩)), hne⟩
    · refine .inr ⟨fun hall => hdirs fun x hx => ?_, ?_⟩
      · exact hall.2 _ ((hitem _).mpr (.inl ⟨x.1, (hbelow x.1).mpr ⟨x, hx, rfl⟩, rfl⟩))
      · exact Effect.bind_ne_ok (by rwa [hrun])
  · exact .inr ⟨fun hall => htop hall.1, Effect.bind_ne_ok hne⟩

/-! ### Modes -/

lemma finished_directory (h : Listed info) {di : BasicDirectoryInfo} (hdi : di ∈ info.dirsInfo) :
    d.finished info (location di.relativePath) = some (.directory (d.dirMode di)) := by
  have hlisting := listing_madeItems (d := d) h
  by_cases htop : location di.relativePath = []
  · have hmode : d.madeMode info [] = d.dirMode di := by
      obtain ⟨di', rest, hdirs⟩ := List.exists_cons_of_ne_nil (List.ne_nil_of_mem hdi)
      have hfirst : di = di' := by
        rw [hdirs] at hdi
        refine (List.mem_cons.mp hdi).resolve_right fun hrest => ?_
        exact h.top_first di (by rwa [hdirs]) htop
      simp [madeMode, hdirs, ← hfirst, htop]
    rw [htop, finished, hlisting.plant_nil, hmode]
    rfl
  · refine hlisting.plant_mem (a := d.madeDirectory di) (List.mem_append_left _ ?_)
    exact List.mem_map_of_mem (List.mem_filter.mpr ⟨hdi, by simpa using htop⟩)

lemma finished_file (h : Listed info) (n : Fin F) :
    d.finished info (location (info.filesInfo n).relativePath) =
      some (.file (d.fileMode info n)) :=
  (listing_madeItems h).plant_mem (a := fileItem info (d.fileMode info) n) (by simp [madeItems])

/-- The directory that holds something has been given its mode. -/
lemma finished_parent (h : Listed info) {a : List String × TreeEntry}
    (ha : a ∈ d.madeItems info) :
    d.finished info a.1.dropLast = some (.directory (d.madeMode info a.1.dropLast)) := by
  by_cases hnil : a.1.dropLast = []
  · rw [hnil, finished, (listing_madeItems h).plant_nil]
    rfl
  · obtain ⟨mode, hp⟩ := (listing_madeItems h).parent a ha hnil
    obtain ⟨di, hdi, hloc⟩ : ∃ di ∈ info.dirsInfo, location di.relativePath = a.1.dropLast := by
      simp only [madeItems, List.mem_append, List.mem_map, directoriesBelow, List.mem_filter] at hp
      rcases hp with ⟨di, ⟨hdi, -⟩, heq⟩ | ⟨n, -, heq⟩
      · exact ⟨di, hdi, congrArg Prod.fst heq⟩
      · cases congrArg Prod.snd heq
    obtain ⟨di', hfind⟩ := Option.isSome_iff_exists.mp
      (List.find?_isSome.mpr ⟨di, hdi, by simpa using hloc⟩ :
        (info.dirsInfo.find? (location ·.relativePath = a.1.dropLast)).isSome)
    have hloc' : location di'.relativePath = a.1.dropLast := by
      simpa using List.find?_some hfind
    rw [madeMode, hfind, ← hloc', finished_directory h (List.mem_of_find?_eq_some hfind)]
    rfl

/-- Only the set-group-ID bit can be dropped. -/
lemma chmodded_cases (loc : List String) (mode : ℕ) : d.chmodded loc mode = mode ∨
    1024 ≤ mode ∧ d.chmodded loc mode = mode - 1024 := by
  have hbits : mode &&& (d.dropped loc mode &&& 0o2000) = 0 ∨
      mode &&& (d.dropped loc mode &&& 0o2000) = 1024 := by
    rw [← Nat.land_assoc, show 0o2000 = 2 ^ 10 from rfl, Nat.and_two_pow]
    cases (mode &&& d.dropped loc mode).testBit 10
    · exact .inl rfl
    · exact .inr rfl
  have hle : mode &&& (d.dropped loc mode &&& 0o2000) ≤ mode := Nat.and_le_left
  rw [chmodded, masked]
  omega

/-- The bits of the owner stay. -/
lemma writable_chmodded (loc : List String) (mode : ℕ) :
    Writable (d.chmodded loc mode) ↔ Writable mode := by
  have hlow : ∀ m : ℕ, m &&& 0o300 = m % 256 &&& 0o300 := fun m => by
    have hlt : m &&& 0o300 < 2 ^ 8 := lt_of_le_of_lt Nat.and_le_right (by decide)
    rw [← Nat.mod_eq_of_lt hlt, Nat.and_mod_two_pow]
  rcases chmodded_cases (d := d) loc mode with heq | ⟨hle, heq⟩
  · rw [heq]
  · have hmod : (mode - 1024) % 256 = mode % 256 := by omega
    rw [heq, Writable, Writable, hlow (mode - 1024), hmod, ← hlow]

lemma writable_madeMode (loc : List String) :
    Writable (d.madeMode info loc) ↔ Writable (d.modeOf info loc) := by
  unfold madeMode modeOf
  cases info.dirsInfo.find? (location ·.relativePath = loc) with
  | none    => rfl
  | some di => exact writable_chmodded ..

lemma creates_iff (h : Listed info) : d.Creates info ↔
    ((∃ di ∈ info.dirsInfo, location di.relativePath = []) → Searchable d.mode) ∧
    (∀ di ∈ info.dirsInfo, location di.relativePath ≠ [] →
      Writable (d.modeOf info (location di.relativePath).dropLast)) ∧
    ∀ n, Writable (d.modeOf info (location (info.filesInfo n).relativePath).dropLast) := by
  have hparent : ∀ a ∈ d.madeItems info, (d.finished info).ParentWritable a.1 ↔
      Writable (d.modeOf info a.1.dropLast) := fun a ha => by
    simp [ParentWritable, finished_parent h ha, writable_madeMode]
  refine and_congr_right fun _ => ⟨fun hall => ⟨fun di hdi hne => ?_, fun n => ?_⟩, ?_⟩
  · have ha : d.madeDirectory di ∈ d.madeItems info := List.mem_append_left _
      (List.mem_map_of_mem (List.mem_filter.mpr ⟨hdi, by simpa using hne⟩))
    exact (hparent _ ha).mp (hall _ ha)
  · have ha : fileItem info (d.fileMode info) n ∈ d.madeItems info := by simp [madeItems]
    exact (hparent _ ha).mp (hall _ ha)
  · rintro ⟨hdirs, hfiles⟩ a ha
    refine (hparent a ha).mpr ?_
    simp only [madeItems, List.mem_append, List.mem_map, directoriesBelow, List.mem_filter] at ha
    rcases ha with ⟨di, ⟨hdi, hne⟩, rfl⟩ | ⟨n, -, rfl⟩
    · exact hdirs di hdi (by simpa using hne)
    · exact hfiles n

/-- The mode of a file is the one listed unless that is `0`, or loses bits when it is set or with the
size. -/
lemma fileMode_eq_iff (n : Fin F) : d.fileMode info n = (info.filesInfo n).posixPerm ↔
    (info.filesInfo n).posixPerm ≠ 0 ∧
    d.chmodded (location (info.filesInfo n).relativePath) (info.filesInfo n).posixPerm =
      (info.filesInfo n).posixPerm ∧
    (0 < info.fileSize n →
      d.truncated (info.filesInfo n).posixPerm = (info.filesInfo n).posixPerm) := by
  by_cases hzero : (info.filesInfo n).posixPerm = 0
  · refine iff_of_false (fun hmode => ?_) fun h => h.1 hzero
    have hand : ∀ x y, y &&& 0o644 = 0 → masked (x &&& y) 0o644 = 0o644 := fun x y hy => by
      rw [masked, Nat.land_comm, Nat.land_assoc, hy, Nat.and_zero]
    have hopened : d.openedMode info n = 0o644 := by
      rw [openedMode, permOf, if_pos hzero]
      exact hand _ _ rfl
    have htruncated : d.truncated 0o644 = 0o644 := hand _ _ rfl
    rw [fileMode, hopened, htruncated, ite_self, hzero] at hmode
    cases hmode
  · rw [fileMode, openedMode, permOf, if_neg hzero]
    generalize (info.filesInfo n).posixPerm = perm at *
    generalize location (info.filesInfo n).relativePath = loc
    by_cases hset : d.chmodded loc perm = perm
    · by_cases hsize : 0 < info.fileSize n
      · simp [hzero, hset, hsize]
      · simp [hzero, hset, hsize]
    · -- what has been dropped does not come back with the size
      have hlt : d.chmodded loc perm < perm := lt_of_le_of_ne (masked_le ..) hset
      have hle : d.truncated (d.chmodded loc perm) ≤ d.chmodded loc perm := masked_le ..
      refine iff_of_false (fun hmode => ?_) fun h => hset h.2.1
      split_ifs at hmode
      · omega
      · omega

/-- A tree is reproduced exactly if every directory in which something is listed can be written by
its owner, no file has permissions `0`, nothing is refused its set-group-ID bit, and no file loses
permissions when its size is set. -/
theorem reproduces_iff (d : OwnedDirectory F) (h : Listed info) (N : ℕ) :
    Reproduces d info (d.run info N) ↔ d.Reproducible info := by
  have hdir : ∀ di : BasicDirectoryInfo, some (TreeEntry.directory (d.dirMode di)) =
      some (.directory di.posixPerm) ↔ d.dirMode di = di.posixPerm := fun di => by simp
  have hfile : ∀ n, some (TreeEntry.file (d.fileMode info n)) =
      some (.file (info.filesInfo n).posixPerm) ↔
        d.fileMode info n = (info.filesInfo n).posixPerm := fun n => by simp
  rcases run_cases (d := d) h N with ⟨hcreates, hok, htree, hopened⟩ | ⟨hcreates, hne⟩
  · obtain ⟨htop, hdirs, hfiles⟩ := (creates_iff h).mp hcreates
    constructor
    · intro hrun
      have hset : ∀ di ∈ info.dirsInfo, d.dirMode di = di.posixPerm := fun di hdi => by
        rw [← hdir, ← finished_directory h hdi, ← htree]
        exact hrun.directory di hdi
      have hmode : ∀ n, d.fileMode info n = (info.filesInfo n).posixPerm := fun n => by
        rw [← hfile, ← finished_file h n, ← htree]
        exact hrun.file n
      exact ⟨htop, hdirs, hfiles, fun n => ((fileMode_eq_iff n).mp (hmode n)).1, hset,
        fun n => ((fileMode_eq_iff n).mp (hmode n)).2.1,
        fun n => ((fileMode_eq_iff n).mp (hmode n)).2.2⟩
    · intro hmodes
      refine ⟨hok, fun di hdi => ?_, fun n => ?_, hopened⟩
      · rw [htree, finished_directory h hdi, hdir]
        exact hmodes.directory_set di hdi
      · rw [htree, finished_file h n, hfile]
        exact (fileMode_eq_iff n).mpr
          ⟨hmodes.file_perm n, hmodes.file_set n, hmodes.truncated n⟩
  · refine iff_of_false (fun hrun => hne hrun.ok) fun hmodes => hcreates ?_
    exact (creates_iff h).mpr ⟨hmodes.top, hmodes.directory, hmodes.file⟩

lemma listedPath_names {l : List String} (h : l ≠ [] ∧ ".." ∉ l ∧ "." ∉ l ∧ "" ∉ l) :
    ListedPath ⟨false, l⟩ := by
  have hnames : (⟨false, l⟩ : FilePath).names = l :=
    List.filter_eq_self.mpr fun n hn => by simpa using fun heq : n = "" => h.2.2.2 (heq ▸ hn)
  exact ⟨rfl, by rw [hnames]; exact h.1, by rw [hnames]; exact h.2.1,
    by rw [hnames]; exact fun hdot => h.2.2.1 (List.mem_of_mem_tail hdot)⟩

lemma one_lt_fileBound : 1 < 2 ^ 64 := by decide

lemma zero_lt_fileBound : 0 < 2 ^ 64 := by decide

/-- Two directories, of which the inner one gives its group to what is created in it, and two files,
of which one runs with the rights of its owner. -/
def sharedTree : BasicTransferInfo 2 where
  sourceIsDirectory := true
  dirsInfo := [{ relativePath := ⟨false, ["d"]⟩, posixPerm := 0o755 },
    { relativePath := ⟨false, ["d", "e"]⟩, posixPerm := 0o2750 }]
  filesInfo := ![
    { relativePath := ⟨false, ["d", "e", "f"]⟩
      fileSize := 1
      posixPerm := 0o4755
      fileSize_lt := one_lt_fileBound },
    { relativePath := ⟨false, ["d", "g"]⟩
      fileSize := 0
      posixPerm := 0o400
      fileSize_lt := zero_lt_fileBound }]

lemma listed_sharedTree : Listed sharedTree where
  directory di hdi := by
    rcases List.mem_pair.mp hdi with rfl | rfl
    · exact listedPath_names (by decide)
    · exact listedPath_names (by decide)
  file n := by
    fin_cases n
    · exact listedPath_names (by decide)
    · exact listedPath_names (by decide)
  directory_perm := by decide
  file_perm n := by
    have hperm : ∀ n : Fin 2, (sharedTree.filesInfo n).posixPerm &&& 0o7777 =
        (sharedTree.filesInfo n).posixPerm := by decide
    exact not_not.mpr (hperm n)
  top_first := by decide
  listing := by
    have hitems : items sharedTree (fun n => (sharedTree.filesInfo n).posixPerm) =
        [(["d"], .directory 0o755), (["d", "e"], .directory 0o2750),
          (["d", "e", "f"], .file 0o4755), (["d", "g"], .file 0o400)] := rfl
    rw [hitems]
    exact ⟨by simp, by simp, by simp⟩

/-- The empty directory `/t` of a user who has the group of `d/e` and of nothing else, on a system
that leaves set-ID bits alone when a size is set. -/
def sharedDirectory : OwnedDirectory 2 where
  path := ⟨true, ["t"]⟩
  mode := 0o700
  umask := 0o077
  dropped loc _ := if loc = ["d", "e"] then 0 else 0o2000
  cleared _ := 0
  fd := ![3, 4]
  addr := ![4096, 8192]
  fd_injective := by decide

theorem reproduces_sharedTree :
    Reproduces sharedDirectory sharedTree (sharedDirectory.run sharedTree 2) :=
  (reproduces_iff sharedDirectory listed_sharedTree 2).mpr
    { top := by decide
      directory := by decide
      file := by decide
      file_perm := by decide
      directory_set := by decide
      file_set := by decide
      truncated := by decide }

/-- The directory `d` without the write bit, and the file `f` in it. -/
def readOnlyTree : BasicTransferInfo 1 where
  sourceIsDirectory := true
  dirsInfo := [{ relativePath := ⟨false, ["d"]⟩, posixPerm := 0o555 }]
  filesInfo _ :=
    { relativePath := ⟨false, ["d", "f"]⟩
      fileSize := 1
      posixPerm := 0o644
      fileSize_lt := one_lt_fileBound }

lemma listed_readOnlyTree : Listed readOnlyTree where
  directory di hdi := by
    obtain rfl := List.mem_singleton.mp hdi
    exact listedPath_names (by decide)
  file _ := listedPath_names (by decide)
  directory_perm := by decide
  file_perm _ := by
    change ¬ (0o644 &&& 0o7777 ≠ 0o644)
    decide
  top_first _ hdi := by cases hdi
  listing := by
    have hitems : items readOnlyTree (fun n => (readOnlyTree.filesInfo n).posixPerm) =
        [(["d"], .directory 0o555), (["d", "f"], .file 0o644)] := rfl
    rw [hitems]
    exact ⟨by simp, by simp, by simp⟩

/-- The empty directory `/t`. -/
def emptyDirectory : OwnedDirectory 1 where
  path := ⟨true, ["t"]⟩
  mode := 0o755
  umask := 0o022
  dropped _ _ := 0
  cleared _ := 0
  fd _ := 3
  addr _ := 4096
  fd_injective _ _ _ := Subsingleton.elim ..

/-- In a directory without the write bit, the file that it holds cannot be created. -/
theorem not_reproduces_readOnly : Listed readOnlyTree ∧
    (emptyDirectory.run readOnlyTree 1).1 =
      error (.transferError ⟨13, "open() /t/d/f for write failed"⟩) ∧
    ¬ Reproduces emptyDirectory readOnlyTree (emptyDirectory.run readOnlyTree 1) := by
  have hrun : (emptyDirectory.run readOnlyTree 1).1 =
      error (.transferError ⟨13, "open() /t/d/f for write failed"⟩) := by
    decide
  refine ⟨listed_readOnlyTree, hrun, fun h => ?_⟩
  cases hrun.symm.trans h.ok

end OwnedDirectory

end DestinationPrepare

end Xcp
