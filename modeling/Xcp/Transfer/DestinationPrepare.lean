import Xcp.Infra.Effect
import Xcp.Transfer.DestinationInit
import Xcp.Transfer.DestinationInvariants

/-!
# Preparing a destination step by step

`init_transfer_info` once more, with every call that it makes to the system and with what it has
changed when one of them fails. The context under construction is a local variable, which goes into
`_recv_ctx` once its file is open and mapped; `dispose_impl` walks over `_recv_ctx`.
-/

namespace Xcp

open Outcome

namespace DestinationPrepare

/-- The calls to a system with states `σ`. Those of the library answer or throw
`filesystem_error`, the others answer or set `errno`. A directory or file is given with its place
in the announcement, which tells calls with the same arguments apart. -/
structure System (σ : Type) (F : ℕ) where
  weaklyCanonical (p : FilePath) : σ → Except Unit FilePath × σ
  status (p : FilePath) : σ → Except Unit FileType × σ
  createDirectory (p : FilePath) : σ → Except Unit Unit × σ
  createDirectories (i : ℕ) (p : FilePath) : σ → Except Unit Unit × σ
  permissions (i : ℕ) (p : FilePath) (perm : ℕ) : σ → Except Unit Unit × σ
  openFile (n : Fin F) (p : FilePath) (perm : ℕ) : σ → Except ℕ Fd × σ
  fchmod (n : Fin F) (fd : Fd) (perm : ℕ) : σ → Except ℕ Unit × σ
  ftruncate (n : Fin F) (fd : Fd) (size : ℕ) : σ → Except ℕ Unit × σ
  mmap (n : Fin F) (fd : Fd) (length : ℕ) : σ → Except ℕ ℕ × σ

/-- `transfer_destination` while it is prepared, with the state of the system and what has been
obtained and released. -/
structure Preparation (σ : Type) where
  system : σ
  hasInfo : Bool := false
  gateAllChannelsFinished : GateGuard := {}
  recvCtx : List RecvFileContext := []
  totalSize : ℕ := 0
  syscalls : List Syscall := []

/-- A part of the preparation. -/
abbrev Prepare (σ α : Type) : Type := Effect (Preparation σ) PrepareError α

section Program

variable {σ α : Type} {F : ℕ}

def library (call : σ → Except Unit α × σ) : Prepare σ α := fun p =>
  (orThrowLibrary (call p.system).1, { p with system := (call p.system).2 })

def syscall (call : σ → Except ℕ α × σ) (message : String) : Prepare σ α := fun p =>
  (orThrow (call p.system).1 message, { p with system := (call p.system).2 })

/-- What has been obtained is recorded. -/
def record (call : Syscall) : Prepare σ Unit :=
  Effect.modify fun p => { p with syscalls := p.syscalls ++ [call] }

variable (sys : System σ F) (requestedDstPath : FilePath) (info : BasicTransferInfo F)

/-- The mapping of a file that is not empty. -/
def mapFile (n : Fin F) (filePath : FilePath) (fd : Fd) (fileSize : ℕ) :
    Prepare σ (Option ℕ) :=
  if 0 < fileSize then do
    syscall (sys.ftruncate n fd fileSize)
      ("ftruncate64() " ++ filePath.toString ++ " to " ++ toString fileSize ++ " failed")
    let addr ← syscall (sys.mmap n fd fileSize) ("mmap() " ++ filePath.toString ++ " for write failed")
    record (.mmap addr fileSize)
    pure (some addr)
  else pure none

/-- `internal_open_regular_file`, with the context that it fills. -/
def internalOpenRegularFile (n : Fin F) (filePath : FilePath) : Prepare σ RecvFileContext := do
  let fi := info.filesInfo n
  let perm ← Effect.lift (createPerm fi)
  let fd ← syscall (sys.openFile n filePath perm) ("open() " ++ filePath.toString ++ " for write failed")
  record (.open fd)
  syscall (sys.fchmod n fd perm) ("fchmod() " ++ filePath.toString ++ " failed")
  let dstFileMapped ← mapFile sys n filePath fd fi.fileSize
  Effect.modify fun p => { p with totalSize := toU64 (p.totalSize + fi.fileSize) }
  pure { mappedLength := fi.fileSize, dstFileMapped := dstFileMapped, fileHandle := some fd }

/-- `_recv_ctx.emplace_back(std::move(ctx))`. -/
def emplaceBack (ctx : RecvFileContext) : Prepare σ Unit :=
  Effect.modify fun p => { p with recvCtx := p.recvCtx ++ [ctx] }

/-- A file of the loop: it is opened, and its context kept. -/
def receiveFile (n : Fin F) (filePath : FilePath) : Prepare σ Unit :=
  internalOpenRegularFile sys info n filePath >>= emplaceBack

/-- A directory of the loop. -/
def receiveDirectory (di : BasicDirectoryInfo × ℕ) : Prepare σ Unit := do
  let dir := requestedDstPath / di.1.relativePath
  library (sys.createDirectories di.2 dir)
  library (sys.permissions di.2 dir di.1.posixPerm)

/-- `prepare_transfer_regular_file`, for the only file. -/
def prepareTransferRegularFile : Prepare σ Unit := do
  Effect.lift (assert (F = 1))
  (List.finRange F).forM fun n => receiveFile sys info n requestedDstPath

/-- `prepare_transfer_directory`. -/
def prepareTransferDirectory : Prepare σ Unit := do
  info.dirsInfo.zipIdx.forM (receiveDirectory sys requestedDstPath)
  (List.finRange F).forM fun n =>
    receiveFile sys info n (requestedDstPath / (info.filesInfo n).relativePath)

/-- The switch over the type of the destination path. -/
def prepareTransfer (type : FileType) : Prepare σ Unit :=
  let unsupported (message : String) : Prepare σ Unit :=
    Effect.lift (.error (.transferError ⟨38, message ++ requestedDstPath.toString⟩))
  match type with
  | .regular =>
    if info.sourceIsDirectory then unsupported "Transfer source directory to a file: "
    else prepareTransferRegularFile sys requestedDstPath info
  | .directory =>
    if info.sourceIsDirectory then prepareTransferDirectory sys requestedDstPath info
    else prepareTransferRegularFile sys requestedDstPath info
  | .notFound =>
    if info.sourceIsDirectory then do
      library (sys.createDirectory requestedDstPath)
      prepareTransferDirectory sys requestedDstPath info
    else prepareTransferRegularFile sys requestedDstPath info
  | .block     => unsupported "Transfer to a block device is not supported: "
  | .character => unsupported "Transfer to a character device is not supported: "
  | .fifo      => unsupported "Transfer to a FIFO file is not supported: "
  | .socket    => unsupported "Transfer to a socket file is not supported: "
  | .unknown   => unsupported "Unknown file type: "

/-- `_gate_all_channels_finished.init(total_channel_repeats_count)`, and `_info`. -/
def initMembers (N : ℕ) : Prepare σ Unit := do
  Effect.lift (assert (0 < N))
  Effect.read fun p => do
    let gate ← Effect.lift (p.gateAllChannelsFinished.init N)
    Effect.lift (assert (p.hasInfo = false))
    Effect.modify fun p => { p with
      gateAllChannelsFinished := gate
      hasInfo := true }

/-- `init_transfer_info`. -/
def initTransferInfo (N : ℕ) : Prepare σ Unit := do
  initMembers N
  let dstRealPath ← library (sys.weaklyCanonical requestedDstPath)
  let type ← library (sys.status dstRealPath)
  prepareTransfer sys requestedDstPath info type

end Program

/-! ### Calls to an arbitrary system -/

/-- A new object, after `_info` and its gate have been set. -/
def started {σ : Type} (s : σ) (N : ℕ) : Preparation σ where
  system := s
  hasInfo := true
  gateAllChannelsFinished := { atLeastSignal := N }

lemma initMembers_new {σ : Type} (s : σ) {N : ℕ} (hpos : 0 < N) (hN : N ≠ invalidSignalCount) :
    initMembers N { system := s } = (ok (), started s N) := by
  have hgate : (({} : GateGuard).init N : Outcome PrepareError GateGuard) =
      ok { atLeastSignal := N } := GateGuard.init_eq_ok.mpr ⟨hN, hpos, rfl⟩
  unfold initMembers
  rw [assert_of hpos]
  simp only [Effect.lift_ok_bind, Effect.read_apply, hgate]
  rfl

section Calls

variable {σ α : Type} {F : ℕ} {sys : System σ F} {info : BasicTransferInfo F} {n : Fin F}
  {filePath : FilePath} {perm : ℕ} {fd : Fd} {p : Preparation σ} {s t : σ}

lemma syscall_eq_ok {call : σ → Except ℕ α × σ} {message : String} {a : α}
    (h : call p.system = (.ok a, s)) : syscall call message p = (ok a, { p with system := s }) := by
  rw [syscall, h]
  rfl

lemma library_eq_ok {call : σ → Except Unit α × σ} {a : α} (h : call p.system = (.ok a, s)) :
    library call p = (ok a, { p with system := s }) := by
  rw [library, h]
  rfl

lemma library_eq_error {call : σ → Except Unit α × σ} {e : Unit}
    (h : call p.system = (.error e, s)) :
    library call p = (error .filesystemError, { p with system := s }) := by
  rw [library, h]
  rfl

/-- A file that cannot be opened is not received. -/
lemma receiveFile_error (hperm : createPerm (info.filesInfo n) = ok perm) {e : ℕ}
    (hopen : sys.openFile n filePath perm p.system = (.error e, s)) :
    ∃ message, receiveFile sys info n filePath p =
      (error (.transferError ⟨e, message⟩), { p with system := s }) := by
  have hrun : internalOpenRegularFile sys info n filePath p = (error (.transferError
      ⟨e, "open() " ++ filePath.toString ++ " for write failed"⟩), { p with system := s }) := by
    unfold internalOpenRegularFile
    simp only [hperm, Effect.lift_ok_bind]
    refine Effect.bind_of_error ?_
    rw [syscall, hopen]
    rfl
  exact ⟨_, Effect.bind_of_error hrun⟩

/-- A file is received if every call for it succeeds. -/
lemma receiveFile_ok (hperm : createPerm (info.filesInfo n) = ok perm)
    (hopen : sys.openFile n filePath perm p.system = (.ok fd, s))
    (hchmod : sys.fchmod n fd perm s = (.ok (), t)) {t' : σ}
    (hmap : (info.fileSize n = 0 ∧ t' = t) ∨ ∃ u addr, 0 < info.fileSize n ∧
      sys.ftruncate n fd (info.fileSize n) t = (.ok (), u) ∧
      sys.mmap n fd (info.fileSize n) u = (.ok addr, t')) :
    ∃ p', receiveFile sys info n filePath p = (ok (), p') ∧ p'.system = t' := by
  have hmapped : ∀ q : Preparation σ, q.system = t → ∃ mapped q',
      mapFile sys n filePath fd (info.fileSize n) q = (ok mapped, q') ∧ q'.system = t' := by
    intro q hq
    unfold mapFile
    rcases hmap with ⟨hsize, rfl⟩ | ⟨u, addr, hsize, htruncate, hmmap⟩
    · rw [if_neg (by omega)]
      exact ⟨_, q, rfl, hq⟩
    · rw [if_pos hsize, Effect.bind_of_ok (syscall_eq_ok (by rw [hq, htruncate])),
        Effect.bind_of_ok (syscall_eq_ok hmmap)]
      exact ⟨_, _, rfl, rfl⟩
  obtain ⟨mapped, q, hrun, hq⟩ := hmapped
    { p with
      system := t
      syscalls := p.syscalls ++ [.open fd] } rfl
  have hfile : internalOpenRegularFile sys info n filePath p =
      (ok { mappedLength := info.fileSize n, dstFileMapped := mapped, fileHandle := some fd },
        { q with totalSize := toU64 (q.totalSize + info.fileSize n) }) := by
    unfold internalOpenRegularFile
    simp only [hperm, Effect.lift_ok_bind]
    rw [Effect.bind_of_ok (syscall_eq_ok hopen), record, Effect.modify_bind,
      Effect.bind_of_ok (syscall_eq_ok hchmod), Effect.bind_of_ok hrun]
    rfl
  rw [receiveFile, Effect.bind_of_ok hfile]
  exact ⟨_, rfl, hq⟩

end Calls

/-! ### Disposal -/

namespace Preparation

variable {σ : Type} (p : Preparation σ)

/-- What `dispose_impl` does with a context. -/
def disposeContext (ctx : RecvFileContext) : RecvFileContext × List Syscall :=
  let (ctx, closed) := ctx.closeHandle
  let (ctx, unmapped) := ctx.unmapFile
  (ctx, closed ++ unmapped)

/-- `dispose_impl`. -/
def disposeImpl : Preparation σ :=
  let disposed := if p.hasInfo then p.recvCtx.map disposeContext else p.recvCtx.map (·, [])
  { p with
    recvCtx := disposed.map (·.1)
    syscalls := p.syscalls ++ (disposed.map (·.2)).flatten
    gateAllChannelsFinished :=
      if p.gateAllChannelsFinished.initialized then p.gateAllChannelsFinished.force.set
      else p.gateAllChannelsFinished }

end Preparation

/-! ### Answers given in advance -/

variable {F : ℕ} {info : BasicTransferInfo F}

/-- What the system answers to each call of a preparation. Every call is made at most once, so this
is every behaviour of a system. A call that fails sets `errno`. -/
structure Answers (info : BasicTransferInfo F) extends OsAnswers info where
  weaklyCanonical : Except Unit FilePath
  status : Except Unit FileType
  createDirectory : Except Unit Unit
  createDirectories : ℕ → Except Unit Unit
  permissions : ℕ → Except Unit Unit
  openFile_errno : ∀ n, openFile n ≠ .error 0
  fchmod_errno : ∀ n, fchmod n ≠ .error 0
  ftruncate_errno : ∀ n, ftruncate n ≠ .error 0
  mmap_errno : ∀ n, mmap n ≠ .error 0

/-- The system that gives these answers. -/
def Answers.system (os : Answers info) : System Unit F where
  weaklyCanonical _ s := (os.weaklyCanonical, s)
  status _ s := (os.status, s)
  createDirectory _ s := (os.createDirectory, s)
  createDirectories i _ s := (os.createDirectories i, s)
  permissions i _ _ s := (os.permissions i, s)
  openFile n _ _ s := (os.openFile n, s)
  fchmod n _ _ s := (os.fchmod n, s)
  ftruncate n _ _ s := (os.ftruncate n, s)
  mmap n _ _ s := (os.mmap n, s)

/-- The context of a file that is open and mapped. -/
def openedCtx (os : Answers info) (n : Fin F) : RecvFileContext where
  mappedLength := info.fileSize n
  dstFileMapped := if 0 < info.fileSize n then (os.mmap n).toOption else none
  fileHandle := (os.openFile n).toOption

/-- What has been obtained for a context. -/
def obtained (ctx : RecvFileContext) : List Syscall :=
  (ctx.fileHandle.map Syscall.open).toList ++
    (ctx.dstFileMapped.map (Syscall.mmap · ctx.mappedLength)).toList

/-- How `internal_open_regular_file` ends. -/
inductive OpenRun (os : Answers info) (n : Fin F) (p : Preparation Unit) :
    Outcome PrepareError RecvFileContext × Preparation Unit → Prop
  | extraPerm (hperm : Destination.ExtraPerm (info.filesInfo n).posixPerm) :
      OpenRun os n p (aborted, p)
  | notOpened {e message} (hopen : os.openFile n = .error e) :
      OpenRun os n p (error (.transferError ⟨e, message⟩), p)
  | notMapped {e message fd} (hopen : os.openFile n = .ok fd) (herrno : e ≠ 0)
      (hnot : ¬ Destination.Opens os.toOsAnswers n) :
      OpenRun os n p (error (.transferError ⟨e, message⟩),
        { p with syscalls := p.syscalls ++ [.open fd] })
  | opened (h : Destination.Opens os.toOsAnswers n) :
      OpenRun os n p (ok (openedCtx os n),
        { p with
          syscalls := p.syscalls ++ obtained (openedCtx os n)
          totalSize := toU64 (p.totalSize + info.fileSize n) })

section Run

variable {α : Type} {os : Answers info} {n : Fin F} {p : Preparation Unit} {filePath : FilePath}

lemma syscall_of_ok {call : Unit → Except ℕ α × Unit} {message : String} {a : α}
    (h : (call p.system).1 = .ok a) : syscall call message p = (ok a, p) := by
  rw [syscall, h]
  rfl

lemma syscall_of_error {call : Unit → Except ℕ α × Unit} {message : String} {e : ℕ}
    (h : (call p.system).1 = .error e) :
    syscall call message p = (error (.transferError ⟨e, message⟩), p) := by
  rw [syscall, h]
  rfl

lemma library_of_ok {call : Unit → Except Unit α × Unit} {a : α}
    (h : (call p.system).1 = .ok a) : library call p = (ok a, p) := by
  rw [library, h]
  rfl

lemma library_of_error {call : Unit → Except Unit α × Unit} {e : Unit}
    (h : (call p.system).1 = .error e) : library call p = (error .filesystemError, p) := by
  rw [library, h]
  rfl

/-- How the mapping of a file ends. -/
lemma mapFile_run (os : Answers info) (n : Fin F) (filePath : FilePath) (fd : Fd)
    (p : Preparation Unit) :
    (∃ e message, e ≠ 0 ∧
      mapFile os.system n filePath fd (info.fileSize n) p = (error (.transferError ⟨e, message⟩), p) ∧
      ¬ Destination.Opens os.toOsAnswers n) ∨
    ((0 < info.fileSize n → os.ftruncate n = .ok ()) ∧
      (0 < info.fileSize n → ∃ addr, os.mmap n = .ok addr) ∧
      mapFile os.system n filePath fd (info.fileSize n) p = (ok (openedCtx os n).dstFileMapped,
        { p with syscalls := p.syscalls ++
          ((openedCtx os n).dstFileMapped.map (Syscall.mmap · (info.fileSize n))).toList })) := by
  unfold mapFile openedCtx
  by_cases hsize : 0 < info.fileSize n
  · simp only [if_pos hsize]
    cases htruncate : os.ftruncate n with
    | error e =>
      refine .inl ⟨e, _, fun h => os.ftruncate_errno n (h ▸ htruncate),
        Effect.bind_of_error (syscall_of_error htruncate), fun h => ?_⟩
      cases htruncate.symm.trans (h.ftruncate hsize)
    | ok u =>
      rw [Effect.bind_of_ok (syscall_of_ok htruncate)]
      cases hmmap : os.mmap n with
      | error e =>
        refine .inl ⟨e, _, fun h => os.mmap_errno n (h ▸ hmmap),
          Effect.bind_of_error (syscall_of_error hmmap), fun h => ?_⟩
        obtain ⟨addr, haddr⟩ := h.mmap hsize
        cases hmmap.symm.trans haddr
      | ok addr =>
        refine .inr ⟨fun _ => rfl, fun _ => ⟨addr, rfl⟩, ?_⟩
        rw [Effect.bind_of_ok (syscall_of_ok hmmap)]
        rfl
  · simp only [if_neg hsize]
    exact .inr ⟨fun h => absurd h hsize, fun h => absurd h hsize, by simp⟩

lemma internalOpenRegularFile_run (os : Answers info) (n : Fin F) (filePath : FilePath)
    (p : Preparation Unit) : OpenRun os n p (internalOpenRegularFile os.system info n filePath p) := by
  unfold internalOpenRegularFile
  by_cases hextra : Destination.ExtraPerm (info.filesInfo n).posixPerm
  · rw [Destination.createPerm_eq_aborted.mpr hextra]
    exact .extraPerm hextra
  obtain ⟨perm, hperm⟩ := Destination.createPerm_ok hextra
  simp only [hperm, Effect.lift_ok_bind]
  cases hopen : os.openFile n with
  | error e =>
    rw [Effect.bind_of_error (syscall_of_error hopen)]
    exact .notOpened hopen
  | ok fd =>
    rw [Effect.bind_of_ok (syscall_of_ok hopen), record, Effect.modify_bind]
    cases hchmod : os.fchmod n with
    | error e =>
      rw [Effect.bind_of_error (syscall_of_error hchmod)]
      refine .notMapped hopen (fun h => os.fchmod_errno n (h ▸ hchmod)) fun h => ?_
      cases hchmod.symm.trans h.fchmod
    | ok u =>
      rw [Effect.bind_of_ok (syscall_of_ok hchmod)]
      rcases mapFile_run os n filePath fd { p with syscalls := p.syscalls ++ [.open fd] } with
        ⟨e, message, herrno, hmap, hnot⟩ | ⟨htruncate, hmmap, hmap⟩
      · rw [Effect.bind_of_error hmap]
        exact .notMapped hopen herrno hnot
      · rw [Effect.bind_of_ok hmap]
        have hrun := OpenRun.opened (p := p) ⟨hextra, ⟨fd, hopen⟩, hchmod, htruncate, hmmap⟩
        simpa [obtained, openedCtx, hopen, Except.toOption] using hrun

/-! ### The files of a preparation -/

/-- After these files have been opened. -/
def Preparation.withFiles (p : Preparation Unit) (os : Answers info) (l : List (Fin F)) :
    Preparation Unit :=
  { p with
    recvCtx := p.recvCtx ++ l.map (openedCtx os)
    syscalls := p.syscalls ++ (l.map fun n => obtained (openedCtx os n)).flatten
    totalSize := l.foldl (fun total n => toU64 (total + info.fileSize n)) p.totalSize }

lemma withFiles_nil : p.withFiles os [] = p := by
  simp [Preparation.withFiles]

lemma withFiles_cons (n : Fin F) (l : List (Fin F)) :
    p.withFiles os (n :: l) = (p.withFiles os [n]).withFiles os l := by
  simp [Preparation.withFiles]

/-- How the loop over the files ends: at the end, or at a file that does not open. -/
inductive FilesRun (os : Answers info) (p : Preparation Unit) (l : List (Fin F)) :
    Outcome PrepareError Unit × Preparation Unit → Prop
  | all (h : ∀ n ∈ l, Destination.Opens os.toOsAnswers n) : FilesRun os p l (ok (), p.withFiles os l)
  | extraPerm {before n after} (hl : l = before ++ n :: after)
      (h : ∀ m ∈ before, Destination.Opens os.toOsAnswers m)
      (hperm : Destination.ExtraPerm (info.filesInfo n).posixPerm) :
      FilesRun os p l (aborted, p.withFiles os before)
  | notOpened {before n after e message} (hl : l = before ++ n :: after)
      (h : ∀ m ∈ before, Destination.Opens os.toOsAnswers m) (hopen : os.openFile n = .error e) :
      FilesRun os p l (error (.transferError ⟨e, message⟩), p.withFiles os before)
  | notMapped {before n after e message fd} (hl : l = before ++ n :: after)
      (h : ∀ m ∈ before, Destination.Opens os.toOsAnswers m) (hopen : os.openFile n = .ok fd)
      (herrno : e ≠ 0) (hnot : ¬ Destination.Opens os.toOsAnswers n) :
      FilesRun os p l (error (.transferError ⟨e, message⟩),
        { p.withFiles os before with
          syscalls := (p.withFiles os before).syscalls ++ [.open fd] })

/-- A file in front of a loop. -/
lemma FilesRun.cons {l : List (Fin F)} {r : Outcome PrepareError Unit × Preparation Unit}
    (hn : Destination.Opens os.toOsAnswers n) (h : FilesRun os (p.withFiles os [n]) l r) :
    FilesRun os p (n :: l) r := by
  have hcons : ∀ before, (∀ m ∈ before, Destination.Opens os.toOsAnswers m) →
      ∀ m ∈ n :: before, Destination.Opens os.toOsAnswers m :=
    fun _ h => List.forall_mem_cons.mpr ⟨hn, h⟩
  cases h with
  | all h =>
    rw [← withFiles_cons]
    exact .all (hcons _ h)
  | extraPerm hl h hperm =>
    rw [← withFiles_cons]
    exact .extraPerm (by rw [hl, List.cons_append]) (hcons _ h) hperm
  | notOpened hl h hopen =>
    rw [← withFiles_cons]
    exact .notOpened (by rw [hl, List.cons_append]) (hcons _ h) hopen
  | notMapped hl h hopen herrno hnot =>
    rw [← withFiles_cons]
    exact .notMapped (by rw [hl, List.cons_append]) (hcons _ h) hopen herrno hnot

lemma receiveFiles_run (os : Answers info) (filePath : Fin F → FilePath) (p : Preparation Unit)
    (l : List (Fin F)) :
    FilesRun os p l (l.forM (fun n => receiveFile os.system info n (filePath n)) p) := by
  induction l generalizing p with
  | nil =>
    have hrun : FilesRun os p [] (ok (), p.withFiles os []) := .all (by nofun)
    rwa [withFiles_nil] at hrun
  | cons n l ih =>
    have hnone : ∀ m ∈ [], Destination.Opens os.toOsAnswers m := by nofun
    rw [Effect.forM_cons]
    have hopen := internalOpenRegularFile_run os n (filePath n) p
    generalize hx : internalOpenRegularFile os.system info n (filePath n) p = x at hopen
    cases hopen with
    | opened h =>
      have hn : receiveFile os.system info n (filePath n) p = (ok (), p.withFiles os [n]) := by
        rw [receiveFile, Effect.bind_of_ok hx]
        simp [emplaceBack, Preparation.withFiles]
      rw [Effect.bind_of_ok hn]
      exact (ih _).cons h
    | extraPerm hperm =>
      have hn : receiveFile os.system info n (filePath n) p = (aborted, p) :=
        Effect.bind_of_aborted hx
      rw [Effect.bind_of_aborted hn]
      have hrun : FilesRun os p (n :: l) _ := .extraPerm (List.nil_append _).symm hnone hperm
      rwa [withFiles_nil] at hrun
    | @notOpened e message hopen =>
      have hn : receiveFile os.system info n (filePath n) p = _ := Effect.bind_of_error hx
      rw [Effect.bind_of_error hn]
      have hrun : FilesRun os p (n :: l) (error (.transferError ⟨e, message⟩), p.withFiles os []) :=
        .notOpened (List.nil_append _).symm hnone hopen
      rwa [withFiles_nil] at hrun
    | @notMapped e message fd hopen herrno hnot =>
      have hn : receiveFile os.system info n (filePath n) p = _ := Effect.bind_of_error hx
      rw [Effect.bind_of_error hn]
      have hrun : FilesRun os p (n :: l) (error (.transferError ⟨e, message⟩), _) :=
        .notMapped (List.nil_append _).symm hnone hopen herrno hnot
      rwa [withFiles_nil] at hrun

/-! ### The whole preparation -/

variable (os) in
/-- The directories of the announcement are created and get their permissions. -/
def DirectoriesPrepared : Prop :=
  ∀ i < info.dirsInfo.length, os.createDirectories i = .ok () ∧ os.permissions i = .ok ()

variable (os) in
/-- A directory of the preparation cannot be created, or does not get its permissions. -/
def DirectoriesFail : FileType → Prop
  | .directory => info.sourceIsDirectory = true ∧ ¬ DirectoriesPrepared os
  | .notFound  => info.sourceIsDirectory = true ∧
    (os.createDirectory ≠ .ok () ∨ ¬ DirectoriesPrepared os)
  | _ => False

variable (info) in
/-- For a destination of this type files are opened. -/
def OpensFiles : FileType → Prop
  | .regular => info.sourceIsDirectory = false ∧ F = 1
  | .directory | .notFound => info.sourceIsDirectory = true ∨ F = 1
  | _ => False

lemma DirectoriesFail.opensFiles {type : FileType} (h : DirectoriesFail os type) :
    OpensFiles info type := by
  cases type with
  | directory | notFound => exact .inl h.1
  | _ => exact h.elim

variable (os) in
/-- A call of the library fails. -/
def LibraryFails : Prop :=
  match os.weaklyCanonical, os.status with
  | .ok _, .ok type => DirectoriesFail os type
  | _, _ => True

variable (os) in
/-- The preparation comes to its files. -/
def ReachesFiles : Prop :=
  match os.weaklyCanonical, os.status with
  | .ok _, .ok type => ¬ DirectoriesFail os type ∧ OpensFiles info type
  | _, _ => False

lemma LibraryFails.not_reachesFiles (h : LibraryFails os) : ¬ ReachesFiles os := by
  unfold LibraryFails at h
  unfold ReachesFiles
  split at h
  · exact fun hreaches => hreaches.1 h
  · exact id

lemma receiveDirectories_run (os : Answers info) (requestedDstPath : FilePath)
    (p : Preparation Unit) (l : List (BasicDirectoryInfo × ℕ)) :
    ((∀ di ∈ l, os.createDirectories di.2 = .ok () ∧ os.permissions di.2 = .ok ()) ∧
      l.forM (receiveDirectory os.system requestedDstPath) p = (ok (), p)) ∨
    (¬ (∀ di ∈ l, os.createDirectories di.2 = .ok () ∧ os.permissions di.2 = .ok ()) ∧
      l.forM (receiveDirectory os.system requestedDstPath) p = (error .filesystemError, p)) := by
  induction l with
  | nil => exact .inl ⟨by nofun, rfl⟩
  | cons di l ih =>
    rw [Effect.forM_cons, List.forall_mem_cons]
    cases hcreate : os.createDirectories di.2 with
    | error e =>
      have hdi : receiveDirectory os.system requestedDstPath di p = _ :=
        Effect.bind_of_error (library_of_error hcreate)
      exact .inr ⟨by simp, Effect.bind_of_error hdi⟩
    | ok u =>
      cases hperm : os.permissions di.2 with
      | error e =>
        have hdi : receiveDirectory os.system requestedDstPath di p = _ :=
          (Effect.bind_of_ok (library_of_ok hcreate)).trans (library_of_error hperm)
        exact .inr ⟨by simp, Effect.bind_of_error hdi⟩
      | ok v =>
        have hdi : receiveDirectory os.system requestedDstPath di p = _ :=
          (Effect.bind_of_ok (library_of_ok hcreate)).trans (library_of_ok hperm)
        rw [Effect.bind_of_ok hdi]
        simpa using ih

/-- How the preparation of a directory ends. -/
lemma prepareTransferDirectory_run (os : Answers info) (requestedDstPath : FilePath)
    (p : Preparation Unit) :
    (¬ DirectoriesPrepared os ∧ prepareTransferDirectory os.system requestedDstPath info p =
      (error .filesystemError, p)) ∨
    (DirectoriesPrepared os ∧ FilesRun os p (List.finRange F)
      (prepareTransferDirectory os.system requestedDstPath info p)) := by
  have hall : (∀ di ∈ info.dirsInfo.zipIdx,
      os.createDirectories di.2 = .ok () ∧ os.permissions di.2 = .ok ()) ↔
      DirectoriesPrepared os := by
    constructor
    · intro h i hi
      exact h (info.dirsInfo[i], i) (List.mk_mem_zipIdx_iff_getElem?.mpr (List.getElem?_eq_getElem hi))
    · rintro h ⟨di, i⟩ hdi
      obtain ⟨hi, -⟩ := List.getElem?_eq_some_iff.mp (List.mk_mem_zipIdx_iff_getElem?.mp hdi)
      exact h i hi
  rcases receiveDirectories_run os requestedDstPath p info.dirsInfo.zipIdx with ⟨h, hrun⟩ | ⟨h, hrun⟩
  · refine .inr ⟨hall.mp h, ?_⟩
    rw [prepareTransferDirectory, Effect.bind_of_ok hrun]
    exact receiveFiles_run os _ p _
  · exact .inl ⟨mt hall.mpr h, Effect.bind_of_error hrun⟩

/-- How the switch over the type of the destination ends. -/
inductive PrepareRun (os : Answers info) (p : Preparation Unit) (type : FileType) :
    Outcome PrepareError Unit × Preparation Unit → Prop
  | unsupported {e message} (herrno : e ≠ 0) (hnot : ¬ OpensFiles info type) :
      PrepareRun os p type (error (.transferError ⟨e, message⟩), p)
  | miscounted (hdir : info.sourceIsDirectory = false) (hF : F ≠ 1) :
      PrepareRun os p type (aborted, p)
  | thrown (h : DirectoriesFail os type) : PrepareRun os p type (error .filesystemError, p)
  | files {r} (h : ¬ DirectoriesFail os type) (hopens : OpensFiles info type)
      (hr : FilesRun os p (List.finRange F) r) : PrepareRun os p type r

lemma prepareTransferRegularFile_run (os : Answers info) (requestedDstPath : FilePath)
    (p : Preparation Unit) {type : FileType} (hdir : info.sourceIsDirectory = false)
    (hopens : F = 1 → OpensFiles info type) (hfail : ¬ DirectoriesFail os type) :
    PrepareRun os p type (prepareTransferRegularFile os.system requestedDstPath info p) := by
  unfold prepareTransferRegularFile
  by_cases hF : F = 1
  · rw [assert_of hF]
    exact .files hfail (hopens hF) (receiveFiles_run os _ p _)
  · have hassert : (assert (F = 1) : Outcome PrepareError Unit) = aborted := if_neg hF
    rw [hassert, Effect.lift_aborted_bind]
    exact .miscounted hdir hF

lemma prepareTransfer_run (os : Answers info) (requestedDstPath : FilePath) (p : Preparation Unit)
    (type : FileType) :
    PrepareRun os p type (prepareTransfer os.system requestedDstPath info type p) := by
  unfold prepareTransfer
  cases hdir : info.sourceIsDirectory with
  | false =>
    have hfail : ∀ type, ¬ DirectoriesFail os type := by
      intro type
      cases type <;> simp [DirectoriesFail, hdir]
    cases type with
    | regular | directory | notFound =>
      exact prepareTransferRegularFile_run os requestedDstPath p hdir
        (fun hF => by simp [OpensFiles, hF, hdir]) (hfail _)
    | _ => exact .unsupported (by decide) id
  | true =>
    cases type with
    | directory =>
      rcases prepareTransferDirectory_run os requestedDstPath p with ⟨h, hrun⟩ | ⟨h, hrun⟩
      · simp only [if_true]
        rw [hrun]
        exact .thrown ⟨hdir, h⟩
      · exact .files (fun hfail => hfail.2 h) (.inl hdir) hrun
    | notFound =>
      simp only [if_true]
      cases hcreate : os.createDirectory with
      | error e =>
        rw [Effect.bind_of_error (library_of_error hcreate)]
        exact .thrown ⟨hdir, .inl (by simp [hcreate])⟩
      | ok u =>
        rw [Effect.bind_of_ok (library_of_ok hcreate)]
        rcases prepareTransferDirectory_run os requestedDstPath p with ⟨h, hrun⟩ | ⟨h, hrun⟩
        · rw [hrun]
          exact .thrown ⟨hdir, .inr h⟩
        · exact .files (fun hfail => hfail.2.elim (absurd hcreate) (absurd h)) (.inl hdir) hrun
    | regular => exact .unsupported (by decide) (by simp [OpensFiles, hdir])
    | _ => exact .unsupported (by decide) id

/-- How `init_transfer_info` ends on a new object. -/
inductive InitRun (os : Answers info) (N : ℕ) :
    Outcome PrepareError Unit × Preparation Unit → Prop
  | thrown (h : LibraryFails os) : InitRun os N (error .filesystemError, started () N)
  | unsupported {e message} (herrno : e ≠ 0) (h : ¬ LibraryFails os) (hnot : ¬ ReachesFiles os) :
      InitRun os N (error (.transferError ⟨e, message⟩), started () N)
  | miscounted (hdir : info.sourceIsDirectory = false) (hF : F ≠ 1) :
      InitRun os N (aborted, started () N)
  | files {r} (hreach : ReachesFiles os) (hr : FilesRun os (started () N) (List.finRange F) r) :
      InitRun os N r

/-- The gate can be set up if the preparation fails and does not abort. -/
lemma initTransferInfo_error {σ : Type} {sys : System σ F} {requestedDstPath : FilePath} {N : ℕ}
    {s : σ} {x : PrepareError}
    (h : (initTransferInfo sys requestedDstPath info N { system := s }).1 = error x) :
    0 < N ∧ N ≠ invalidSignalCount := by
  by_contra hnot
  have hmembers : (initMembers N : Prepare σ Unit) { system := s } = (aborted, { system := s }) := by
    unfold initMembers
    by_cases hpos : 0 < N
    · have hN : N = invalidSignalCount := by
        by_contra hne
        exact hnot ⟨hpos, hne⟩
      subst hN
      rfl
    · have hassert : (assert (0 < N) : Outcome PrepareError Unit) = aborted := if_neg hpos
      rw [hassert]
      rfl
  rw [initTransferInfo, Effect.bind_of_aborted hmembers] at h
  cases h

lemma initTransferInfo_run (os : Answers info) (requestedDstPath : FilePath) {N : ℕ} (hpos : 0 < N)
    (hN : N ≠ invalidSignalCount) :
    InitRun os N (initTransferInfo os.system requestedDstPath info N { system := () }) := by
  rw [initTransferInfo, Effect.bind_of_ok (initMembers_new () hpos hN)]
  cases hreal : os.weaklyCanonical with
  | error e =>
    rw [Effect.bind_of_error (library_of_error hreal)]
    exact .thrown (by simp [LibraryFails, hreal])
  | ok real =>
    rw [Effect.bind_of_ok (library_of_ok hreal)]
    cases htype : os.status with
    | error e =>
      rw [Effect.bind_of_error (library_of_error htype)]
      exact .thrown (by simp [LibraryFails, hreal, htype])
    | ok type =>
      rw [Effect.bind_of_ok (library_of_ok htype)]
      have hlibrary : LibraryFails os ↔ DirectoriesFail os type := by
        simp [LibraryFails, hreal, htype]
      have hreaches : ReachesFiles os ↔ ¬ DirectoriesFail os type ∧ OpensFiles info type := by
        simp [ReachesFiles, hreal, htype]
      have hrun := prepareTransfer_run os requestedDstPath (started () N) type
      generalize prepareTransfer os.system requestedDstPath info type (started () N) = r at hrun
      cases hrun with
      | unsupported herrno hnot =>
        exact .unsupported herrno (fun h => hnot (hlibrary.mp h).opensFiles)
          (fun h => hnot (hreaches.mp h).2)
      | miscounted hdir hF => exact .miscounted hdir hF
      | thrown h => exact .thrown (hlibrary.mpr h)
      | files h hopens hr => exact .files (hreaches.mpr ⟨h, hopens⟩) hr

/-! ### Agreement with the initial state of the machine -/

section Agreement

variable (previous : FileImage) {requestedDstPath : FilePath}
  {createDirectories : FilePath → Outcome PrepareError Unit} {type : FileType}

lemma yields_library (call : Unit → Except Unit α × Unit) :
    Effect.Yields (library call) (orThrowLibrary (call ()).1) := fun _ => rfl

lemma yields_syscall (call : Unit → Except ℕ α × Unit) (message : String) :
    Effect.Yields (syscall call message) (orThrow (call ()).1 message) := fun _ => rfl

lemma yields_mapFile (os : Answers info) (n : Fin F) (filePath : FilePath) (fd : Fd)
    (fileSize : ℕ) : Effect.Yields (mapFile os.system n filePath fd fileSize)
      (if 0 < fileSize then do
        orThrow (os.ftruncate n)
          ("ftruncate64() " ++ filePath.toString ++ " to " ++ toString fileSize ++ " failed")
        let addr ← orThrow (os.mmap n) ("mmap() " ++ filePath.toString ++ " for write failed")
        pure (some addr)
      else pure none) := by
  unfold mapFile
  split_ifs
  · exact (yields_syscall _ _).bind fun _ => (yields_syscall _ _).bind fun _ =>
      (Effect.yields_modify _).bind fun _ => Effect.yields_pure _
  · exact Effect.yields_pure _

lemma yields_internalOpenRegularFile (os : Answers info) (n : Fin F) (filePath : FilePath) :
    Effect.Yields (internalOpenRegularFile os.system info n filePath)
      (Xcp.internalOpenRegularFile os.toOsAnswers filePath.toString n previous >>= fun f =>
        pure f.ctx) := by
  have hyields := (Effect.yields_lift (σ := Preparation Unit) (createPerm (info.filesInfo n))).bind
    fun perm => (yields_syscall (os.system.openFile n filePath perm)
        ("open() " ++ filePath.toString ++ " for write failed")).bind
    fun fd => (Effect.yields_modify fun p : Preparation Unit =>
        { p with syscalls := p.syscalls ++ [.open fd] }).bind
    fun _ => (yields_syscall (os.system.fchmod n fd perm)
        ("fchmod() " ++ filePath.toString ++ " failed")).bind
    fun _ => (yields_mapFile os n filePath fd (info.fileSize n)).bind
    fun dstFileMapped => (Effect.yields_modify fun p : Preparation Unit =>
        { p with totalSize := toU64 (p.totalSize + info.fileSize n) }).bind
    fun _ => Effect.yields_pure ({
        mappedLength := info.fileSize n
        dstFileMapped := dstFileMapped
        fileHandle := some fd } : RecvFileContext)
  intro s
  refine (hyields s).trans ?_
  unfold Xcp.internalOpenRegularFile
  change (createPerm _ >>= fun _ => orThrow (os.openFile n) _ >>= fun _ => ok () >>= fun _ =>
    orThrow (os.fchmod n) _ >>= _) = _
  cases hperm : createPerm (info.filesInfo n) with
  | ok perm =>
    cases os.openFile n with
    | error e => simp [hperm, orThrow]
    | ok fd =>
      cases os.fchmod n with
      | error e => simp [hperm, orThrow]
      | ok u =>
        by_cases hsize : 0 < info.fileSize n
        · cases os.ftruncate n with
          | error e => simp [hperm, hsize, orThrow]
          | ok u => cases os.mmap n <;> simp [hperm, hsize, orThrow]
        · simp [hperm, hsize, orThrow]
  | _ => simp [hperm]

variable (previous : Fin F → FileImage)

lemma yields_receiveFiles (os : Answers info) (filePath : Fin F → FilePath) :
    Effect.Yields ((List.finRange F).forM fun n => receiveFile os.system info n (filePath n))
      (Destination.openFiles os.toOsAnswers previous filePath >>= fun _ => ok ()) := by
  rw [Destination.openFiles, ← Outcome.forM_finRange]
  refine Effect.Yields.forM fun n _ => ?_
  have hyields := (yields_internalOpenRegularFile (previous n) os n (filePath n)).bind
    fun ctx => Effect.yields_modify fun p : Preparation Unit =>
      { p with recvCtx := p.recvCtx ++ [ctx] }
  intro s
  refine (hyields s).trans ?_
  rw [bind_assoc]
  rfl

lemma yields_prepareTransferRegularFile (os : Answers info) (requestedDstPath : FilePath) :
    Effect.Yields (prepareTransferRegularFile os.system requestedDstPath info)
      (Destination.prepareTransferRegularFile os.toOsAnswers requestedDstPath previous >>= fun _ =>
        ok ()) := by
  have hyields := (Effect.yields_lift (σ := Preparation Unit) (assert (F = 1))).bind fun _ =>
    yields_receiveFiles previous os fun _ => requestedDstPath
  intro s
  refine (hyields s).trans ?_
  rw [Destination.prepareTransferRegularFile, bind_assoc]

/-- The answers for the directories, as the preparation without a state sees them. -/
structure DirectoryAnswers (os : Answers info)
    (createDirectories : FilePath → Outcome PrepareError Unit) (requestedDstPath : FilePath) :
    Prop where
  destination : createDirectories requestedDstPath = orThrowLibrary os.createDirectory
  directory : ∀ i di, info.dirsInfo[i]? = some di →
    createDirectories (requestedDstPath / di.relativePath) =
      (orThrowLibrary (os.createDirectories i) >>= fun _ => orThrowLibrary (os.permissions i))

lemma yields_prepareTransferDirectory
    (h : DirectoryAnswers os createDirectories requestedDstPath) :
    Effect.Yields (prepareTransferDirectory os.system requestedDstPath info)
      (Destination.prepareTransferDirectory os.toOsAnswers createDirectories requestedDstPath
        previous >>= fun _ => ok ()) := by
  have hdirs : Effect.Yields (info.dirsInfo.zipIdx.forM (receiveDirectory os.system requestedDstPath))
      (info.dirsInfo.zipIdx.forM fun di => createDirectories (requestedDstPath / di.1.relativePath)) := by
    refine Effect.Yields.forM fun di hdi => ?_
    rw [h.directory di.2 di.1 (List.mk_mem_zipIdx_iff_getElem?.mp hdi)]
    exact (yields_library _).bind fun _ => yields_library _
  have hyields := hdirs.bind fun _ => yields_receiveFiles previous os fun n =>
    requestedDstPath / (info.filesInfo n).relativePath
  intro s
  refine (hyields s).trans ?_
  rw [Destination.prepareTransferDirectory, bind_assoc]
  congr 1
  have hmap : (info.dirsInfo.zipIdx.map Prod.fst).forM (fun di =>
      createDirectories (requestedDstPath / di.relativePath)) = info.dirsInfo.zipIdx.forM fun di =>
        createDirectories (requestedDstPath / di.1.relativePath) := List.forM_map
  rw [← hmap, List.zipIdx_map_fst]

lemma yields_prepareTransfer (h : DirectoryAnswers os createDirectories requestedDstPath)
    (type : FileType) :
    Effect.Yields (prepareTransfer os.system requestedDstPath info type)
      (Destination.prepareTransfer os.toOsAnswers createDirectories requestedDstPath previous type
        >>= fun _ => ok ()) := by
  unfold prepareTransfer Destination.prepareTransfer
  cases type with
  | regular =>
    simp only
    split_ifs
    · exact Effect.yields_lift _
    · exact yields_prepareTransferRegularFile previous os requestedDstPath
  | directory =>
    simp only
    split_ifs
    · exact yields_prepareTransferDirectory previous h
    · exact yields_prepareTransferRegularFile previous os requestedDstPath
  | notFound =>
    simp only
    split_ifs
    · have hyields := (yields_library (os.system.createDirectory requestedDstPath)).bind fun _ =>
        yields_prepareTransferDirectory previous h
      intro s
      refine (hyields s).trans ?_
      rw [h.destination, bind_assoc]
      rfl
    · exact yields_prepareTransferRegularFile previous os requestedDstPath
  | _ => exact Effect.yields_lift _

/-- A context that has just been opened is the one that the answers tell. -/
lemma openedCtx_of_opened {n : Fin F} {ctx : RecvFileContext} {content : FileImage}
    {calls : List Syscall} (h : Destination.Opened os.toOsAnswers n ctx content calls) :
    openedCtx os n = ctx ∧ obtained (openedCtx os n) = calls := by
  obtain ⟨-, fd, hopen, ⟨hsize, rfl, rfl⟩ | ⟨addr, hsize, hmmap, rfl, rfl⟩⟩ := h
  · simp [openedCtx, obtained, hopen, hsize, Except.toOption]
  · simp [openedCtx, obtained, hopen, hmmap, hsize, Except.toOption]

lemma foldl_toU64 (l : List (Fin F)) (total : ℕ) :
    toU64 (l.foldl (fun total n => toU64 (total + info.fileSize n)) total) =
      toU64 (total + (l.map info.fileSize).sum) := by
  induction l generalizing total with
  | nil => rfl
  | cons n l ih =>
    rw [List.foldl_cons, ih, List.map_cons, List.sum_cons, toU64, toU64, toU64, Nat.mod_add_mod,
      add_assoc]

/-- On a new object the preparation ends as the one without a state does, and what that yields is
what it has made of the object. -/
theorem initTransferInfo_agrees {real : FilePath} {N : ℕ} (hlt : N < 2 ^ 64) (hpos : 0 < N)
    (hN : N ≠ invalidSignalCount) (hreal : os.weaklyCanonical = .ok real)
    (htype : os.status = .ok type) (h : DirectoryAnswers os createDirectories requestedDstPath) :
    let r := initTransferInfo os.system requestedDstPath info N { system := () }
    let o := Destination.initTransferInfo os.toOsAnswers createDirectories requestedDstPath previous N
      type
    r.1 = (o >>= fun _ => ok ()) ∧ ∀ s, o = ok s →
      r.2.recvCtx = List.ofFn s.recvCtx ∧ r.2.syscalls = s.syscalls ∧
      toU64 r.2.totalSize = s.totalSize ∧ r.2.gateAllChannelsFinished = s.gateAllChannelsFinished := by
  intro r o
  have hrun : r = prepareTransfer os.system requestedDstPath info type (started () N) := by
    change initTransferInfo _ _ _ _ _ = _
    rw [initTransferInfo, Effect.bind_of_ok (initMembers_new () hpos hN),
      Effect.bind_of_ok (library_of_ok hreal), Effect.bind_of_ok (library_of_ok htype)]
  have hgate : (({} : GateGuard).init N : Outcome PrepareError GateGuard) =
      ok { atLeastSignal := N } := GateGuard.init_eq_ok.mpr ⟨hN, hpos, rfl⟩
  have hresult : r.1 = (o >>= fun _ => ok ()) := by
    rw [hrun, yields_prepareTransfer previous h type (started () N)]
    change _ = (Destination.initTransferInfo _ _ _ _ _ _ >>= _)
    rw [Destination.initTransferInfo, assert_of hpos, ok_bind, hgate, ok_bind, bind_assoc]
    rfl
  refine ⟨hresult, fun s hs => ?_⟩
  have hinitial : Destination.Initial os.toOsAnswers s :=
    .of_init (e := .little) ⟨hlt, _, _, _, _, hs⟩
  obtain ⟨calls, hcalls, hopened⟩ := hinitial.opened
  rw [hs, ok_bind] at hresult
  have hfiles := initTransferInfo_run os requestedDstPath hpos hN
  change InitRun os N r at hfiles
  generalize r = r at hresult hfiles
  cases hfiles with
  | files hreach hr =>
    cases hr with
    | all hall =>
      have hctx : (List.finRange F).map (openedCtx os) = List.ofFn s.recvCtx := by
        rw [List.ofFn_eq_map]
        exact List.map_congr_left fun n _ => (openedCtx_of_opened (hopened n)).1
      have hobtained : (List.finRange F).map (fun n => obtained (openedCtx os n)) =
          List.ofFn calls := by
        rw [List.ofFn_eq_map]
        exact List.map_congr_left fun n _ => (openedCtx_of_opened (hopened n)).2
      refine ⟨?_, ?_, ?_, hinitial.gate_eq.symm⟩
      · rw [← hctx]
        rfl
      · rw [hcalls, ← hobtained]
        rfl
      · rw [hinitial.totalSize_eq, List.ofFn_eq_map]
        exact (foldl_toU64 (List.finRange F) 0).trans (by rw [zero_add])
    | _ => cases hresult
  | _ => cases hresult

end Agreement

end Run

end DestinationPrepare

end Xcp
