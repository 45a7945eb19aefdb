import Xcp.Transfer.DestinationPrepare

/-!
# Where the files of a destination are opened

The preparation on a system whose calls answer as they like, except that a directory cannot be opened
for writing. A directory source goes below the destination path; a single file goes to the path
itself, also when there is a directory at it.
-/

namespace Xcp

open Outcome

namespace DestinationPrepare

/-- What the destination path may lead to. -/
inductive DestinationType where
  | regular
  | directory
  | notFound
  deriving DecidableEq

/-- As `file_type` names it. -/
def DestinationType.fileType : DestinationType → FileType
  | regular   => .regular
  | directory => .directory
  | notFound  => .notFound

/-- A destination: its type, and what the calls answer, the opening of a file for each path. A
directory cannot be opened for writing (`EISDIR`). -/
structure WritableDestination {F : ℕ} (info : BasicTransferInfo F) (requestedDstPath : FilePath) where
  type : DestinationType
  realPath : FilePath
  createDirectory : Except Unit Unit
  createDirectories : ℕ → Except Unit Unit
  permissions : ℕ → Except Unit Unit
  openFile : Fin F → FilePath → Except ℕ Fd
  fchmod : Fin F → Except ℕ Unit
  ftruncate : Fin F → Except ℕ Unit
  mmap : Fin F → Except ℕ ℕ
  openFile_directory : info.sourceIsDirectory = false → type = .directory →
    ∀ n, openFile n requestedDstPath = .error 21

variable {F : ℕ} {info : BasicTransferInfo F} {requestedDstPath : FilePath}

namespace WritableDestination

variable (d : WritableDestination info requestedDstPath)

/-- The system, with the paths that it has opened. -/
def system : System (List FilePath) F where
  weaklyCanonical _ s := (.ok d.realPath, s)
  status _ s := (.ok d.type.fileType, s)
  createDirectory _ s := (d.createDirectory, s)
  createDirectories i _ s := (d.createDirectories i, s)
  permissions i _ _ s := (d.permissions i, s)
  openFile n p _ s :=
    match d.openFile n p with
    | .ok fd   => (.ok fd, s ++ [p])
    | .error e => (.error e, s)
  fchmod n _ _ s := (d.fchmod n, s)
  ftruncate n _ _ s := (d.ftruncate n, s)
  mmap n _ _ s := (d.mmap n, s)

/-- The path at which file `n` belongs. -/
def place (n : Fin F) : FilePath :=
  if info.sourceIsDirectory = true ∨ d.type = .directory then
    requestedDstPath / (info.filesInfo n).relativePath
  else requestedDstPath

/-- A directory source onto a regular file. -/
def Refused : Prop := info.sourceIsDirectory = true ∧ d.type = .regular

/-- The preparation for `N` channels. -/
def run (N : ℕ) : Outcome PrepareError Unit × Preparation (List FilePath) :=
  initTransferInfo d.system requestedDstPath info N { system := [] }

/-- The preparation refuses, or opens every file where it belongs. -/
def Places (N : ℕ) : Prop :=
  (d.Refused ∧ (∃ e, (d.run N).1 = error (.transferError e)) ∧ (d.run N).2.system = []) ∨
  (¬ d.Refused ∧ (d.run N).1 = ok () ∧ (d.run N).2.system = (List.finRange F).map d.place)

/-- Every call for the file succeeds when it is opened at this path. -/
structure Opens (n : Fin F) (filePath : FilePath) : Prop where
  perm : ¬ Destination.ExtraPerm (info.filesInfo n).posixPerm
  openFile : (d.openFile n filePath).isOk = true
  fchmod : d.fchmod n = .ok ()
  mapFile : 0 < info.fileSize n → d.ftruncate n = .ok () ∧ (d.mmap n).isOk = true

/-- Every call for the announced directories succeeds. -/
structure MakesDirectories : Prop where
  destination : d.type = .notFound → d.createDirectory = .ok ()
  listed : ∀ i < info.dirsInfo.length, d.createDirectories i = .ok () ∧ d.permissions i = .ok ()

variable {d}

lemma syscall_inv {σ α : Type} {call : σ → Except ℕ α × σ} {message : String} {a : α}
    {p q : Preparation σ} (h : syscall call message p = (ok a, q)) :
    (call p.system).1 = .ok a ∧ q.system = (call p.system).2 := by
  obtain ⟨hok, rfl⟩ := Prod.mk.inj h
  exact ⟨orThrow_eq_ok.mp hok, rfl⟩

lemma isOk_of_eq {ε α : Type} {x : Except ε α} {a : α} (h : x = .ok a) : x.isOk = true := by
  rw [h]
  rfl

/-- A file whose mapping succeeds is empty, or its calls succeed. -/
lemma mapFile_inv {n : Fin F} {filePath : FilePath} {fd : Fd} {fileSize : ℕ} {mapped : Option ℕ}
    {p q : Preparation (List FilePath)}
    (h : mapFile d.system n filePath fd fileSize p = (ok mapped, q)) :
    (0 < fileSize → d.ftruncate n = .ok () ∧ (d.mmap n).isOk = true) ∧ q.system = p.system := by
  unfold mapFile at h
  split_ifs at h with hsize
  · obtain ⟨_, p₁, htruncate, h⟩ := Effect.bind_eq_ok.mp h
    obtain ⟨addr, p₂, hmmap, h⟩ := Effect.bind_eq_ok.mp h
    obtain ⟨_, p₃, hrecord, h⟩ := Effect.bind_eq_ok.mp h
    obtain ⟨htruncate, hp₁⟩ := syscall_inv htruncate
    obtain ⟨hmmap, hp₂⟩ := syscall_inv hmmap
    cases hrecord
    cases h
    exact ⟨fun _ => ⟨htruncate, isOk_of_eq hmmap⟩, hp₂.trans hp₁⟩
  · cases h
    exact ⟨fun hpos => absurd hpos hsize, rfl⟩

/-- A file that is received has been opened at its path, and every call for it has succeeded. -/
lemma opens_of_receiveFile {n : Fin F} {filePath : FilePath} {p q : Preparation (List FilePath)}
    (h : receiveFile d.system info n filePath p = (ok (), q)) :
    d.Opens n filePath ∧ q.system = p.system ++ [filePath] := by
  obtain ⟨ctx, p₁, hopen, h⟩ := Effect.bind_eq_ok.mp h
  cases h
  unfold internalOpenRegularFile at hopen
  obtain ⟨perm, p₂, hperm, hrest⟩ := Effect.bind_eq_ok.mp hopen
  obtain ⟨fd, p₃, hfd, hrest'⟩ := Effect.bind_eq_ok.mp hrest
  rw [record, Effect.modify_bind] at hrest'
  obtain ⟨_, p₅, hchmod, hrest''⟩ := Effect.bind_eq_ok.mp hrest'
  obtain ⟨mapped, p₆, hmap, hctx⟩ := Effect.bind_eq_ok.mp hrest''
  obtain ⟨hperm, rfl⟩ := Prod.mk.inj hperm
  obtain ⟨hfd, hp₃⟩ := syscall_inv hfd
  obtain ⟨hchmod, hp₅⟩ := syscall_inv hchmod
  obtain ⟨hmap, hp₆⟩ := mapFile_inv hmap
  cases hctx
  have hextra : ¬ Destination.ExtraPerm (info.filesInfo n).posixPerm := by
    intro hextra
    rw [Destination.createPerm_eq_aborted.mpr hextra] at hperm
    cases hperm
  simp only [system] at hfd hp₃ hchmod hp₅
  cases hat : d.openFile n filePath with
  | error e =>
    rw [hat] at hfd
    cases hfd
  | ok fd' =>
    rw [hat] at hp₃
    exact ⟨⟨hextra, isOk_of_eq hat, hchmod, hmap⟩, hp₆.trans (hp₅.trans hp₃)⟩

/-- A file is opened at its path, or the preparation does not go on. -/
lemma receiveFile_run (n : Fin F) (filePath : FilePath) (p : Preparation (List FilePath)) :
    (d.Opens n filePath ∧ ∃ p', receiveFile d.system info n filePath p = (ok (), p') ∧
      p'.system = p.system ++ [filePath]) ∨
    (¬ d.Opens n filePath ∧ (receiveFile d.system info n filePath p).1 ≠ ok ()) := by
  by_cases hopens : d.Opens n filePath
  · refine .inl ⟨hopens, ?_⟩
    obtain ⟨hextra, hopen, hchmod, hmap⟩ := hopens
    obtain ⟨perm, hperm⟩ := Destination.createPerm_ok hextra
    cases hat : d.openFile n filePath with
    | error e =>
      rw [hat] at hopen
      cases hopen
    | ok fd =>
      have hopen : d.system.openFile n filePath perm p.system =
          (.ok fd, p.system ++ [filePath]) := by
        simp [system, hat]
      have hchmod : d.system.fchmod n fd perm (p.system ++ [filePath]) =
          (.ok (), p.system ++ [filePath]) := Prod.ext hchmod rfl
      refine receiveFile_ok hperm hopen hchmod ?_
      rcases Nat.eq_zero_or_pos (info.fileSize n) with hsize | hsize
      · exact .inl ⟨hsize, rfl⟩
      · obtain ⟨htruncate, hmmap⟩ := hmap hsize
        cases haddr : d.mmap n with
        | error e =>
          rw [haddr] at hmmap
          cases hmmap
        | ok addr => exact .inr ⟨_, addr, hsize, Prod.ext htruncate rfl, Prod.ext haddr rfl⟩
  · exact .inr ⟨hopens, fun h => hopens (opens_of_receiveFile (Prod.ext h rfl)).1⟩

/-- The files are opened at their paths, or the preparation does not succeed. -/
lemma receiveFiles_run (filePath : Fin F → FilePath) (l : List (Fin F))
    (p : Preparation (List FilePath)) :
    ((∀ n ∈ l, d.Opens n (filePath n)) ∧ ∃ p',
      l.forM (fun n => receiveFile d.system info n (filePath n)) p = (ok (), p') ∧
      p'.system = p.system ++ l.map filePath) ∨
    (¬ (∀ n ∈ l, d.Opens n (filePath n)) ∧
      (l.forM (fun n => receiveFile d.system info n (filePath n)) p).1 ≠ ok ()) := by
  induction l generalizing p with
  | nil => exact .inl ⟨by nofun, p, rfl, (List.append_nil _).symm⟩
  | cons n l ih =>
    rw [Effect.forM_cons, List.forall_mem_cons]
    rcases receiveFile_run (d := d) n (filePath n) p with ⟨hn, p', hrun, hsystem⟩ | ⟨hn, hrun⟩
    · rw [Effect.bind_of_ok hrun]
      rcases ih p' with ⟨hl, p'', hrest, hsystem'⟩ | ⟨hl, hrest⟩
      · exact .inl ⟨⟨hn, hl⟩, p'', hrest, by simp [hsystem', hsystem]⟩
      · exact .inr ⟨fun h => hl h.2, hrest⟩
    · exact .inr ⟨fun h => hn h.1, Effect.bind_ne_ok hrun⟩

/-! ### The whole preparation -/

variable (d) in
/-- The preparation opens files exactly at these paths, or does not succeed. -/
def OpensAt (filePath : Fin F → FilePath) (p : Preparation (List FilePath))
    (r : Outcome PrepareError Unit × Preparation (List FilePath)) : Prop :=
  ((∀ n, d.Opens n (filePath n)) ∧ r.1 = ok () ∧
    r.2.system = p.system ++ (List.finRange F).map filePath) ∨
  (¬ (∀ n, d.Opens n (filePath n)) ∧ r.1 ≠ ok ())

lemma opensAt_receiveFiles (filePath : Fin F → FilePath) (p : Preparation (List FilePath)) :
    d.OpensAt filePath p
      ((List.finRange F).forM (fun n => receiveFile d.system info n (filePath n)) p) := by
  rcases receiveFiles_run (d := d) filePath (List.finRange F) p with ⟨h, p', hrun, hsystem⟩ | ⟨h, hrun⟩
  · exact .inl ⟨fun n => h n (List.mem_finRange n), by rw [hrun], by rw [hrun, hsystem]⟩
  · exact .inr ⟨fun hall => h fun n _ => hall n, hrun⟩

/-- The calls for a directory succeed, or the preparation does not go on. -/
lemma receiveDirectory_run (di : BasicDirectoryInfo × ℕ) (p : Preparation (List FilePath)) :
    ((d.createDirectories di.2 = .ok () ∧ d.permissions di.2 = .ok ()) ∧
      receiveDirectory d.system requestedDstPath di p = (ok (), p)) ∨
    (¬ (d.createDirectories di.2 = .ok () ∧ d.permissions di.2 = .ok ()) ∧
      (receiveDirectory d.system requestedDstPath di p).1 ≠ ok ()) := by
  have hrun : receiveDirectory d.system requestedDstPath di p =
      (do
        library (d.system.createDirectories di.2 (requestedDstPath / di.1.relativePath))
        library (d.system.permissions di.2 (requestedDstPath / di.1.relativePath)
          di.1.posixPerm) : Prepare (List FilePath) Unit) p := rfl
  cases hmake : d.createDirectories di.2 with
  | error e =>
    have hcall : library (d.system.createDirectories di.2 (requestedDstPath / di.1.relativePath)) p =
        (error .filesystemError, p) := library_eq_error (Prod.ext hmake rfl)
    rw [hrun, Effect.bind_of_error hcall]
    exact .inr ⟨nofun, nofun⟩
  | ok u =>
    have hcall : library (d.system.createDirectories di.2 (requestedDstPath / di.1.relativePath)) p =
        (ok u, p) := library_eq_ok (Prod.ext hmake rfl)
    rw [hrun, Effect.bind_of_ok hcall]
    cases hperm : d.permissions di.2 with
    | error e =>
      have hcall' : library (d.system.permissions di.2 (requestedDstPath / di.1.relativePath)
          di.1.posixPerm) p = (error .filesystemError, p) :=
        library_eq_error (Prod.ext hperm rfl)
      rw [hcall']
      exact .inr ⟨nofun, nofun⟩
    | ok u' =>
      have hcall' : library (d.system.permissions di.2 (requestedDstPath / di.1.relativePath)
          di.1.posixPerm) p = (ok u', p) := library_eq_ok (Prod.ext hperm rfl)
      rw [hcall']
      exact .inl ⟨⟨rfl, rfl⟩, rfl⟩

lemma receiveDirectories_run (l : List (BasicDirectoryInfo × ℕ))
    (p : Preparation (List FilePath)) :
    ((∀ di ∈ l, d.createDirectories di.2 = .ok () ∧ d.permissions di.2 = .ok ()) ∧
      l.forM (receiveDirectory d.system requestedDstPath) p = (ok (), p)) ∨
    (¬ (∀ di ∈ l, d.createDirectories di.2 = .ok () ∧ d.permissions di.2 = .ok ()) ∧
      (l.forM (receiveDirectory d.system requestedDstPath) p).1 ≠ ok ()) := by
  induction l with
  | nil => exact .inl ⟨nofun, rfl⟩
  | cons di l ih =>
    rw [Effect.forM_cons, List.forall_mem_cons]
    rcases receiveDirectory_run (d := d) di p with ⟨hdi, hrun⟩ | ⟨hdi, hrun⟩
    · rw [Effect.bind_of_ok hrun]
      rcases ih with ⟨hl, hrest⟩ | ⟨hl, hrest⟩
      · exact .inl ⟨⟨hdi, hl⟩, hrest⟩
      · exact .inr ⟨fun h => hl h.2, hrest⟩
    · exact .inr ⟨fun h => hdi h.1, Effect.bind_ne_ok hrun⟩

lemma forall_mem_zipIdx {α : Type} {l : List α} {P : ℕ → Prop} :
    (∀ x ∈ l.zipIdx, P x.2) ↔ ∀ i < l.length, P i := by
  constructor
  · intro h i hi
    exact h (l[i], i) (List.mk_mem_zipIdx_iff_getElem?.mpr (List.getElem?_eq_getElem hi))
  · rintro h ⟨x, i⟩ hx
    exact h i (List.getElem?_eq_some_iff.mp (List.mk_mem_zipIdx_iff_getElem?.mp hx)).1

/-- A directory source goes below the destination path, once its directories have been made. -/
lemma prepareTransferDirectory_run (p : Preparation (List FilePath)) :
    ((∀ i < info.dirsInfo.length, d.createDirectories i = .ok () ∧ d.permissions i = .ok ()) ∧
      d.OpensAt (fun n => requestedDstPath / (info.filesInfo n).relativePath) p
        (prepareTransferDirectory d.system requestedDstPath info p)) ∨
    (¬ (∀ i < info.dirsInfo.length, d.createDirectories i = .ok () ∧ d.permissions i = .ok ()) ∧
      (prepareTransferDirectory d.system requestedDstPath info p).1 ≠ ok ()) := by
  unfold prepareTransferDirectory
  rw [← forall_mem_zipIdx (l := info.dirsInfo)
    (P := fun i => d.createDirectories i = .ok () ∧ d.permissions i = .ok ())]
  rcases receiveDirectories_run (d := d) info.dirsInfo.zipIdx p with ⟨hdirs, hrun⟩ | ⟨hdirs, hrun⟩
  · rw [Effect.bind_of_ok hrun]
    exact .inl ⟨hdirs, opensAt_receiveFiles _ p⟩
  · exact .inr ⟨hdirs, Effect.bind_ne_ok hrun⟩

/-- A single file goes to the destination path itself. -/
lemma prepareTransferRegularFile_run (p : Preparation (List FilePath)) :
    (F = 1 ∧ d.OpensAt (fun _ => requestedDstPath) p
      (prepareTransferRegularFile d.system requestedDstPath info p)) ∨
    (F ≠ 1 ∧ (prepareTransferRegularFile d.system requestedDstPath info p).1 ≠ ok ()) := by
  unfold prepareTransferRegularFile
  by_cases hF : F = 1
  · rw [assert_of hF]
    exact .inl ⟨hF, opensAt_receiveFiles _ p⟩
  · have hassert : (assert (F = 1) : Outcome PrepareError Unit) = aborted := if_neg hF
    rw [hassert, Effect.lift_aborted_bind]
    exact .inr ⟨hF, by nofun⟩

/-- A preparation that opens files where they belong succeeds if all can be opened. -/
lemma OpensAt.iff {N : ℕ} {filePath : Fin F → FilePath}
    {r : Outcome PrepareError Unit × Preparation (List FilePath)}
    (h : d.OpensAt filePath (started [] N) r) :
    (r.1 = ok () ∧ r.2.system = (List.finRange F).map filePath) ↔ ∀ n, d.Opens n (filePath n) := by
  rcases h with ⟨hopens, hok, hsystem⟩ | ⟨hopens, hne⟩
  · exact iff_of_true ⟨hok, hsystem⟩ hopens
  · exact iff_of_false (fun h => hne h.1) hopens

lemma places_iff_of_not_refused {N : ℕ} (hnot : ¬ d.Refused) :
    d.Places N ↔ (d.run N).1 = ok () ∧ (d.run N).2.system = (List.finRange F).map d.place := by
  simp [Places, hnot]

lemma run_eq {N : ℕ} (hpos : 0 < N) (hN : N ≠ invalidSignalCount) :
    d.run N = prepareTransfer d.system requestedDstPath info d.type.fileType (started [] N) := by
  rw [run, initTransferInfo, Effect.bind_of_ok (initMembers_new [] hpos hN)]
  rfl

/-- A directory source that is not refused goes below the destination path. -/
lemma places_directory_iff {N : ℕ} (hpos : 0 < N) (hN : N ≠ invalidSignalCount)
    (hdir : info.sourceIsDirectory = true) (htype : d.type ≠ .regular) :
    d.Places N ↔ d.MakesDirectories ∧ ∀ n, d.Opens n (d.place n) := by
  have hplace : d.place = fun n => requestedDstPath / (info.filesInfo n).relativePath := by
    funext n
    exact if_pos (.inl hdir)
  have hiff : ∀ {r : Outcome PrepareError Unit × Preparation (List FilePath)},
      (r = prepareTransferDirectory d.system requestedDstPath info (started [] N) ∧
        (d.type = .notFound → d.createDirectory = .ok ())) ∨
      (r.1 ≠ ok () ∧ ¬ (d.type = .notFound → d.createDirectory = .ok ())) →
      (r.1 = ok () ∧ r.2.system = (List.finRange F).map d.place ↔
        d.MakesDirectories ∧ ∀ n, d.Opens n (d.place n)) := by
    rintro r (⟨rfl, hdestination⟩ | ⟨hne, hdestination⟩)
    · rw [hplace]
      rcases prepareTransferDirectory_run (d := d) (started [] N) with ⟨hdirs, hopens⟩ | ⟨hdirs, hne⟩
      · exact hopens.iff.trans (and_iff_right ⟨hdestination, hdirs⟩).symm
      · exact iff_of_false (fun h => hne h.1) fun h => hdirs h.1.listed
    · exact iff_of_false (fun h => hne h.1) fun h => hdestination h.1.destination
  rw [places_iff_of_not_refused fun h => htype h.2]
  refine hiff ?_
  rw [run_eq hpos hN]
  unfold prepareTransfer
  cases h : d.type with
  | regular => exact absurd h htype
  | directory =>
    simp only [DestinationType.fileType, hdir, if_true]
    exact .inl ⟨trivial, nofun⟩
  | notFound =>
    simp only [DestinationType.fileType, hdir, if_true]
    cases hmake : d.createDirectory with
    | error e =>
      have hcall : library (d.system.createDirectory requestedDstPath) (started [] N) =
          (error .filesystemError, started [] N) := library_eq_error (Prod.ext hmake rfl)
      rw [Effect.bind_of_error hcall]
      exact .inr ⟨nofun, fun h => nomatch h trivial⟩
    | ok u =>
      have hcall : library (d.system.createDirectory requestedDstPath) (started [] N) =
          (ok u, started [] N) := library_eq_ok (Prod.ext hmake rfl)
      rw [Effect.bind_of_ok hcall]
      exact .inl ⟨rfl, fun _ => rfl⟩

/-- A single file goes to the destination path, which is where it belongs unless there is a
directory. -/
lemma places_file_iff {N : ℕ} (hpos : 0 < N) (hN : N ≠ invalidSignalCount)
    (hdir : info.sourceIsDirectory = false) :
    d.Places N ↔ (F = 1 ∧ d.type ≠ .directory) ∧ ∀ n, d.Opens n (d.place n) := by
  have hnot : ¬ d.Refused := fun h => by simp [h.1] at hdir
  have hrun : d.run N =
      prepareTransferRegularFile d.system requestedDstPath info (started [] N) := by
    rw [run_eq hpos hN]
    unfold prepareTransfer
    cases d.type <;> simp [DestinationType.fileType, hdir]
  rw [places_iff_of_not_refused hnot, hrun]
  rcases prepareTransferRegularFile_run (d := d) (started [] N) with ⟨hF, hopens⟩ | ⟨hF, hne⟩
  · by_cases htype : d.type = .directory
    · refine iff_of_false (fun h => ?_) fun h => h.1.2 htype
      -- the directory itself is opened as the file
      subst hF
      rcases hopens with ⟨hall, -⟩ | ⟨-, hne⟩
      · have hopen := (hall 0).openFile
        rw [d.openFile_directory hdir htype 0] at hopen
        cases hopen
      · exact hne h.1
    · have hplace : d.place = fun _ => requestedDstPath := by
        funext n
        exact if_neg (by simp [hdir, htype])
      rw [hplace]
      exact hopens.iff.trans (and_iff_right ⟨hF, htype⟩).symm
  · exact iff_of_false (fun h => hne h.1) fun h => hF h.1.1

/-- The preparation refuses or places every file exactly if it refuses, or the source is a directory
whose directories can be made or is one file that does not go into a directory, and every call for
every file succeeds where the file belongs. -/
theorem places_iff (d : WritableDestination info requestedDstPath) {N : ℕ} (hpos : 0 < N)
    (hN : N ≠ invalidSignalCount) :
    d.Places N ↔ d.Refused ∨
      (info.sourceIsDirectory = true ∧ d.MakesDirectories ∨
        info.sourceIsDirectory = false ∧ F = 1 ∧ d.type ≠ .directory) ∧
        ∀ n, d.Opens n (d.place n) := by
  cases hdir : info.sourceIsDirectory with
  | false =>
    have hnot : ¬ d.Refused := fun h => by simp [h.1] at hdir
    rw [or_iff_right hnot, places_file_iff hpos hN hdir]
    simp
  | true =>
    by_cases htype : d.type = .regular
    · have hrefused : d.Refused := ⟨hdir, htype⟩
      refine iff_of_true (.inl ⟨hrefused, ?_⟩) (.inl hrefused)
      rw [run_eq hpos hN]
      unfold prepareTransfer
      simp only [htype, DestinationType.fileType, hdir, if_true]
      exact ⟨⟨_, rfl⟩, rfl⟩
    · have hnot : ¬ d.Refused := fun h => htype h.2
      rw [or_iff_right hnot, places_directory_iff hpos hN hdir htype]
      simp

/-- A path at which there is nothing, where a directory with two files is made. -/
def vacant : WritableDestination Destination.twoFiles ⟨true, ["d"]⟩ where
  type := .notFound
  realPath := ⟨true, ["d"]⟩
  createDirectory := .ok ()
  createDirectories _ := .ok ()
  permissions _ := .ok ()
  openFile n _ := Destination.twoFilesAnswers.openFile n
  fchmod := Destination.twoFilesAnswers.fchmod
  ftruncate := Destination.twoFilesAnswers.ftruncate
  mmap := Destination.twoFilesAnswers.mmap
  openFile_directory := nofun

/-- The files are placed below it. -/
theorem places_vacant : vacant.Places 2 ∧ vacant.place 0 = ⟨true, ["d", "a"]⟩ ∧
    vacant.place 1 = ⟨true, ["d", "b"]⟩ := by
  refine ⟨(places_iff vacant (by decide) (by decide)).mpr
    (.inr ⟨.inl ⟨rfl, fun _ => rfl, nofun⟩, fun n => ⟨?_, rfl, rfl, fun _ => ⟨rfl, ?_⟩⟩⟩),
    by decide, by decide⟩
  · fin_cases n <;> simp [Destination.ExtraPerm, Destination.twoFiles]
  · fin_cases n <;> rfl

/-- The home directory `/h`, to which an empty path on the server is resolved. -/
def home : WritableDestination Destination.oneByte (⟨true, ["h"]⟩ / ({} : FilePath)) where
  type := .directory
  realPath := ⟨true, ["h"]⟩
  createDirectory := .ok ()
  createDirectories _ := .ok ()
  permissions _ := .ok ()
  openFile _ p := if p = ⟨true, ["h", ""]⟩ then .error 21 else .ok 3
  fchmod _ := .ok ()
  ftruncate _ := .ok ()
  mmap _ := .ok 4096
  openFile_directory _ _ _ := rfl

/-- A single file is not placed in the home directory: the directory itself is opened. -/
theorem not_places_home : (home.run 1).1 = error (.transferError ⟨21, "open() /h/ for write failed"⟩) ∧
    home.place 0 = ⟨true, ["h", "f"]⟩ ∧ ¬ home.Places 1 := by
  have hrun : (home.run 1).1 = error (.transferError ⟨21, "open() /h/ for write failed"⟩) := by
    decide
  refine ⟨hrun, by decide, ?_⟩
  rw [places_iff_of_not_refused fun h => Bool.false_ne_true h.1, hrun]
  simp

end WritableDestination

end DestinationPrepare

end Xcp
