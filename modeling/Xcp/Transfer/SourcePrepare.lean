import Xcp.Infra.Effect
import Xcp.Transfer.RecvFile
import Xcp.Transfer.SourceInit

/-!
# Preparing a source step by step

The constructor of `transfer_source` once more, with every call that it makes to the system and with
what it has changed when one of them fails: it then disposes the object, which closes the handles
in `_send_ctx`. The system is given by its answers; every call is made at most once.
-/

namespace Xcp

open Outcome ProgramOptionsDefaults

namespace SourcePrepare

/-- What `open` and `fstat64` answer for a file, the latter with a size and a mode. A call that
fails sets `errno`. -/
structure FileAnswers where
  openFile : Except ℕ Fd
  fstat : Except ℕ (Fin (2 ^ 63) × ℕ)
  openFile_errno : openFile ≠ .error 0
  fstat_errno : fstat ≠ .error 0

/-- What the library and the system answer for an entry of a directory. -/
structure EntryAnswers where
  path : FilePath
  relative : Except Unit FilePath
  isDirectory : Except Unit Bool
  permissions : Except Unit ℕ
  isRegularFile : Except Unit Bool
  file : FileAnswers

/-- What the system answers to a constructor: the status of the path, and what it answers for a
file, or for a directory and the entries that the iterator visits before it ends or throws.
Descriptors that are open at once differ. -/
structure Answers where
  status : Except Unit FileType
  file : FileAnswers
  permissions : Except Unit ℕ
  entries : List EntryAnswers
  iterator : Except Unit Unit
  openFile_ne : entries.Pairwise fun e e' => ∀ fd, e.file.openFile = .ok fd → e'.file.openFile ≠ .ok fd

/-- `send_file_context`, with its handle. -/
structure SendFileContext where
  fileHandle : Option Fd := none

/-- `close_handle`. -/
def SendFileContext.closeHandle (ctx : SendFileContext) : SendFileContext × List Syscall :=
  match ctx.fileHandle with
  | some fd => ({ fileHandle := none }, [.close fd])
  | none    => (ctx, [])

/-- `transfer_source` while it is constructed, with what has been obtained and released. -/
structure Preparation where
  hasInfo : Bool := false
  sourceIsDirectory : Bool := false
  dirsInfo : List BasicDirectoryInfo := []
  filesInfo : List BasicFileInfo := []
  sendCtx : List SendFileContext := []
  totalSize : ℕ := 0
  syscalls : List Syscall := []

/-- A part of the constructor. -/
abbrev Prepare (α : Type) : Type := Effect Preparation PrepareError α

/-- A call of the library. -/
def library {α : Type} (answer : Except Unit α) : Prepare α := Effect.lift (orThrowLibrary answer)

lemma fileBound_lt : 2 ^ 63 < 2 ^ 64 := by decide

section Program

/-- What is recorded of a file of this size and mode. -/
def fileInfo (filePath : FilePath) (st : Fin (2 ^ 63) × ℕ) : BasicFileInfo where
  relativePath := FilePath.ofName filePath.filename
  fileSize := st.1
  posixPerm := st.2 &&& 0o7777
  fileSize_lt := st.1.isLt.trans fileBound_lt

/-- `internal_open_regular_file`, with the context that it fills. -/
def internalOpenRegularFile (filePath : FilePath) (file : FileAnswers) :
    Prepare (SendFileContext × BasicFileInfo) := do
  let fd ← Effect.lift (orThrow file.openFile ("open() " ++ filePath.toString ++ " for read failed"))
  Effect.modify fun p => { p with syscalls := p.syscalls ++ [.open fd] }
  let st ← Effect.lift (orThrow file.fstat ("fstat64() " ++ filePath.toString ++ " failed"))
  Effect.modify fun p => { p with totalSize := toU64 (p.totalSize + st.1) }
  pure ({ fileHandle := some fd }, fileInfo filePath st)

def emplaceFile (ctx : SendFileContext) (fi : BasicFileInfo) : Prepare Unit :=
  Effect.modify fun p => { p with
    filesInfo := p.filesInfo ++ [fi]
    sendCtx := p.sendCtx ++ [ctx] }

def emplaceDirectory (di : BasicDirectoryInfo) : Prepare Unit :=
  Effect.modify fun p => { p with dirsInfo := p.dirsInfo ++ [di] }

/-- `_info = basic_transfer_info()`, which has not been set. -/
def setInfo (sourceIsDirectory : Bool) : Prepare Unit :=
  Effect.read fun p => do
    Effect.lift (assert (p.hasInfo = false))
    Effect.modify fun p => { p with
      hasInfo := true
      sourceIsDirectory := sourceIsDirectory }

variable (a : Answers)

/-- `prepare_transfer_regular_file`. -/
def prepareTransferRegularFile (filePath : FilePath) : Prepare Unit := do
  setInfo false
  let (ctx, fi) ← internalOpenRegularFile filePath a.file
  emplaceFile ctx fi

/-- The body of the loop for an entry. -/
def recordEntry (dirName : FilePath) (e : EntryAnswers) : Prepare Unit := do
  let relative ← library e.relative
  let relativePath := dirName / relative
  if ← library e.isDirectory then
    let permissions ← library e.permissions
    emplaceDirectory { relativePath := relativePath, posixPerm := permissions &&& 0o7777 }
  else if ← library e.isRegularFile then
    let (ctx, fi) ← internalOpenRegularFile e.path e.file
    emplaceFile ctx { fi with relativePath := relativePath }
  else
    Effect.lift (.error (.transferError ⟨38, "Can't transfer special file: " ++ e.path.toString⟩))

/-- The record of the directory itself, unless it has no name. -/
def recordRoot (dirPath : FilePath) : Prepare Unit :=
  if dirPath.filename = "" then pure ()
  else do
    let permissions ← library a.permissions
    emplaceDirectory
      { relativePath := Source.dirName dirPath, posixPerm := permissions &&& 0o7777 }

/-- `prepare_transfer_directory`. -/
def prepareTransferDirectory (dirPath : FilePath) : Prepare Unit := do
  setInfo true
  recordRoot a dirPath
  a.entries.forM (recordEntry (Source.dirName dirPath))
  library a.iterator

/-- The switch over the type of the path. -/
def prepareTransfer (srcPath : FilePath) (recursive : Bool) (type : FileType) : Prepare Unit :=
  let throw (errorCode : ℕ) (message : String) : Prepare Unit :=
    Effect.lift (.error (.transferError ⟨errorCode, message ++ srcPath.toString⟩))
  match type with
  | .regular   => prepareTransferRegularFile a srcPath
  | .directory =>
    if recursive then prepareTransferDirectory a srcPath
    else throw 22 "Trying to transfer a directory without specifying \"-r\": "
  | .notFound  => throw 2 "File not found: "
  | .block     => throw 38 "Transfer a block device is not supported: "
  | .character => throw 38 "Transfer a character device is not supported: "
  | .fifo      => throw 38 "Transfer a FIFO file is not supported: "
  | .socket    => throw 38 "Transfer a socket file is not supported: "
  | .unknown   => throw 38 "Unknown file type: "

/-- The body of the constructor. -/
def construct (srcPath : FilePath) (transferBlockSize : ℕ) (recursive : Bool) : Prepare Unit := do
  Effect.lift (assert (0 < Source.initBlockSize transferBlockSize))
  Effect.lift (assert (transferBlockSize ≤ maxTransferBlockSize))
  let type ← library a.status
  prepareTransfer a srcPath recursive type

/-- `dispose_impl`. -/
def Preparation.disposeImpl (p : Preparation) : Preparation :=
  let disposed := if p.hasInfo then p.sendCtx.map (·.closeHandle) else p.sendCtx.map (·, [])
  { p with
    sendCtx := disposed.map (·.1)
    syscalls := p.syscalls ++ (disposed.map (·.2)).flatten }

/-- `transfer_source::transfer_source`, which disposes the object if an exception leaves it. -/
def transferSource (srcPath : FilePath) (transferBlockSize : ℕ) (recursive : Bool) :
    Outcome PrepareError Unit × Preparation :=
  match construct a srcPath transferBlockSize recursive {} with
  | (.error e, p) => (.error e, p.disposeImpl)
  | r             => r

end Program

/-! ### How an entry ends -/

namespace EntryAnswers

/-- A call of the library fails. -/
def Throws (e : EntryAnswers) : Prop :=
  e.relative = .error () ∨ e.isDirectory = .error () ∨
    (e.isDirectory = .ok true ∧ e.permissions = .error ()) ∨
    (e.isDirectory = .ok false ∧ e.isRegularFile = .error ())

/-- The entry is a directory that can be recorded. -/
def IsDirectory (e : EntryAnswers) : Prop :=
  (∃ relative, e.relative = .ok relative) ∧ e.isDirectory = .ok true ∧
    ∃ permissions, e.permissions = .ok permissions

/-- The entry is a file, of which the path has been found. -/
def IsFile (e : EntryAnswers) : Prop :=
  (∃ relative, e.relative = .ok relative) ∧ e.isDirectory = .ok false ∧ e.isRegularFile = .ok true

/-- The entry is recorded. -/
def Recorded (e : EntryAnswers) : Prop :=
  e.IsDirectory ∨ (e.IsFile ∧ (∃ fd, e.file.openFile = .ok fd) ∧ ∃ st, e.file.fstat = .ok st)

/-- A file is opened, and then `fstat64` fails. -/
def OpensOnly (e : EntryAnswers) : Prop :=
  e.IsFile ∧ (∃ fd, e.file.openFile = .ok fd) ∧ ∃ errno, e.file.fstat = .error errno

/-- The handles that are opened for the entry. -/
def handles (e : EntryAnswers) : List Fd :=
  match e.isDirectory, e.file.openFile with
  | .ok false, .ok fd => [fd]
  | _, _ => []

end EntryAnswers

/-- The part of the object that concerns handles. -/
structure Holds (p p' : Preparation) (kept opened : List Fd) : Prop where
  hasInfo : p'.hasInfo = p.hasInfo
  sendCtx : p'.sendCtx = p.sendCtx ++ kept.map fun fd => ⟨some fd⟩
  syscalls : p'.syscalls = p.syscalls ++ opened.map Syscall.open

lemma Holds.refl (p : Preparation) : Holds p p [] [] := ⟨rfl, by simp, by simp⟩

lemma Holds.trans {p p' p'' : Preparation} {kept kept' opened opened' : List Fd}
    (h : Holds p p' kept opened) (h' : Holds p' p'' kept' opened') :
    Holds p p'' (kept ++ kept') (opened ++ opened') := by
  refine ⟨h'.hasInfo.trans h.hasInfo, ?_, ?_⟩
  · rw [h'.sendCtx, h.sendCtx, List.map_append, List.append_assoc]
  · rw [h'.syscalls, h.syscalls, List.map_append, List.append_assoc]

/-- What has been recorded stays as it is. -/
def SameInfo (p p' : Preparation) : Prop := p'.dirsInfo = p.dirsInfo ∧ p'.filesInfo = p.filesInfo

/-- How `internal_open_regular_file` ends. -/
inductive OpenRun (filePath : FilePath) (file : FileAnswers) (p : Preparation) :
    Outcome PrepareError (SendFileContext × BasicFileInfo) × Preparation → Prop
  | notOpened {errno message} (hopen : file.openFile = .error errno) :
      OpenRun filePath file p (error (.transferError ⟨errno, message⟩), p)
  | notStatted {errno message fd p'} (hopen : file.openFile = .ok fd)
      (hstat : file.fstat = .error errno) (hholds : Holds p p' [] [fd]) :
      OpenRun filePath file p (error (.transferError ⟨errno, message⟩), p')
  | opened {fd st p'} (hopen : file.openFile = .ok fd) (hstat : file.fstat = .ok st)
      (hholds : Holds p p' [] [fd]) (hsame : SameInfo p p') :
      OpenRun filePath file p (ok ({ fileHandle := some fd }, fileInfo filePath st), p')

lemma internalOpenRegularFile_run (filePath : FilePath) (file : FileAnswers) (p : Preparation) :
    OpenRun filePath file p (internalOpenRegularFile filePath file p) := by
  unfold internalOpenRegularFile
  cases hopen : file.openFile with
  | error errno => exact .notOpened hopen
  | ok fd =>
    cases hstat : file.fstat with
    | error errno =>
      exact .notStatted hopen hstat ⟨rfl, (List.append_nil _).symm, rfl⟩
    | ok st =>
      exact .opened hopen hstat ⟨rfl, (List.append_nil _).symm, rfl⟩ ⟨rfl, rfl⟩

/-- How the body of the loop ends for an entry. -/
inductive EntryRun (dirName : FilePath) (e : EntryAnswers) (p : Preparation) :
    Outcome PrepareError Unit × Preparation → Prop
  | thrown (h : e.Throws) : EntryRun dirName e p (error .filesystemError, p)
  | special {message} (hfile : ¬ e.IsFile) (hdir : ¬ e.IsDirectory) (h : ¬ e.Throws) :
      EntryRun dirName e p (error (.transferError ⟨38, message⟩), p)
  | notOpened {errno message} (hfile : e.IsFile) (hopen : e.file.openFile = .error errno) :
      EntryRun dirName e p (error (.transferError ⟨errno, message⟩), p)
  | notStatted {errno message fd p'} (hfile : e.IsFile) (hopen : e.file.openFile = .ok fd)
      (hstat : e.file.fstat = .error errno) (hholds : Holds p p' [] [fd]) :
      EntryRun dirName e p (error (.transferError ⟨errno, message⟩), p')
  | directory {relative permissions p'} (hrelative : e.relative = .ok relative)
      (hdir : e.isDirectory = .ok true) (hperm : e.permissions = .ok permissions)
      (hholds : Holds p p' [] [])
      (hdirs : p'.dirsInfo = p.dirsInfo ++
        [{ relativePath := dirName / relative, posixPerm := permissions &&& 0o7777 }])
      (hfiles : p'.filesInfo = p.filesInfo) : EntryRun dirName e p (ok (), p')
  | file {relative fd st p'} (hrelative : e.relative = .ok relative)
      (hdir : e.isDirectory = .ok false) (hregular : e.isRegularFile = .ok true)
      (hopen : e.file.openFile = .ok fd) (hstat : e.file.fstat = .ok st)
      (hholds : Holds p p' [fd] [fd]) (hdirs : p'.dirsInfo = p.dirsInfo)
      (hfiles : p'.filesInfo = p.filesInfo ++
        [{ fileInfo e.path st with relativePath := dirName / relative }]) :
      EntryRun dirName e p (ok (), p')

lemma recordEntry_run (dirName : FilePath) (e : EntryAnswers) (p : Preparation) :
    EntryRun dirName e p (recordEntry dirName e p) := by
  unfold recordEntry library
  cases hrelative : e.relative with
  | error u => exact .thrown (.inl hrelative)
  | ok relative =>
    simp only [orThrowLibrary, Effect.lift_ok_bind]
    cases hdir : e.isDirectory with
    | error u => exact .thrown (.inr (.inl hdir))
    | ok isDirectory =>
      simp only [Effect.lift_ok_bind]
      cases isDirectory with
      | true =>
        simp only [if_true]
        cases hperm : e.permissions with
        | error u => exact .thrown (.inr (.inr (.inl ⟨hdir, hperm⟩)))
        | ok permissions =>
          exact .directory hrelative hdir hperm
            ⟨rfl, (List.append_nil _).symm, (List.append_nil _).symm⟩ rfl rfl
      | false =>
        simp only [Bool.false_eq_true, if_false]
        cases hregular : e.isRegularFile with
        | error u => exact .thrown (.inr (.inr (.inr ⟨hdir, hregular⟩)))
        | ok isRegularFile =>
          simp only [Effect.lift_ok_bind]
          cases isRegularFile with
          | true =>
            simp only [if_true]
            have hfile : e.IsFile := ⟨⟨relative, hrelative⟩, hdir, hregular⟩
            have hrun := internalOpenRegularFile_run e.path e.file p
            generalize hx : internalOpenRegularFile e.path e.file p = x at hrun
            cases hrun with
            | notOpened hopen =>
              rw [Effect.bind_of_error hx]
              exact .notOpened hfile hopen
            | notStatted hopen hstat hholds =>
              rw [Effect.bind_of_error hx]
              exact .notStatted hfile hopen hstat hholds
            | @opened fd st p' hopen hstat hholds hsame =>
              rw [Effect.bind_of_ok hx]
              refine .file hrelative hdir hregular hopen hstat ?_ hsame.1
                (congrArg (· ++ _) hsame.2)
              have hkeep : Holds p' (emplaceFile { fileHandle := some fd }
                  { fileInfo e.path st with relativePath := dirName / relative } p').2 [fd] [] :=
                ⟨rfl, rfl, (List.append_nil _).symm⟩
              exact hholds.trans hkeep
          | false =>
            refine .special (fun h => ?_) (fun h => ?_) ?_
            · cases hregular.symm.trans h.2.2
            · cases hdir.symm.trans h.2.1
            · simp [EntryAnswers.Throws, hrelative, hdir, hregular]

/-! ### How the constructor ends -/

/-- The handles that are opened for entries. -/
def handles (l : List EntryAnswers) : List Fd := l.flatMap EntryAnswers.handles

/-- An entry that succeeds is recorded, and keeps the handle that it opens. -/
lemma EntryRun.recorded {dirName : FilePath} {e : EntryAnswers} {p p' : Preparation}
    (h : EntryRun dirName e p (ok (), p')) : e.Recorded ∧ Holds p p' e.handles e.handles := by
  cases h with
  | directory hrelative hdir hperm hholds =>
    refine ⟨.inl ⟨⟨_, hrelative⟩, hdir, _, hperm⟩, ?_⟩
    rw [EntryAnswers.handles, hdir]
    exact hholds
  | file hrelative hdir hregular hopen hstat hholds =>
    refine ⟨.inr ⟨⟨⟨_, hrelative⟩, hdir, hregular⟩, ⟨_, hopen⟩, _, hstat⟩, ?_⟩
    rw [EntryAnswers.handles, hdir, hopen]
    exact hholds

lemma EntryAnswers.Throws.not_found {e : EntryAnswers} (h : e.Throws) :
    ¬ e.IsDirectory ∧ ¬ e.IsFile := by
  constructor
  · rintro ⟨⟨_, hrelative⟩, hdir, _, hperm⟩
    simp [Throws, hrelative, hdir, hperm] at h
  · rintro ⟨⟨_, hrelative⟩, hdir, hregular⟩
    simp [Throws, hrelative, hdir, hregular] at h

lemma EntryAnswers.OpensOnly.not_recorded {e : EntryAnswers} (h : e.OpensOnly) : ¬ e.Recorded := by
  obtain ⟨hfile, -, errno, hstat⟩ := h
  rintro (hdir | ⟨-, -, st, hst⟩)
  · cases hfile.2.1.symm.trans hdir.2.1
  · cases hstat.symm.trans hst

/-- The first element without a property is unique. -/
lemma first_unique {α : Type*} {P : α → Prop} {l l' r r' : List α} {x x' : α}
    (h : l ++ x :: r = l' ++ x' :: r') (hl : ∀ y ∈ l, P y) (hl' : ∀ y ∈ l', P y) (hx : ¬ P x)
    (hx' : ¬ P x') : x = x' := by
  induction l generalizing l' with
  | nil =>
    cases l' with
    | nil => exact (List.cons.inj h).1
    | cons y l' => exact absurd (hl' x ((List.cons.inj h).1 ▸ List.mem_cons_self)) hx
  | cons y l ih =>
    cases l' with
    | nil => exact absurd (hl x' ((List.cons.inj h).1 ▸ List.mem_cons_self)) hx'
    | cons y' l' =>
      exact ih (List.cons.inj h).2 (List.forall_mem_cons.mp hl).2 (List.forall_mem_cons.mp hl').2

/-- How the loop over the entries ends. -/
inductive EntriesRun (dirName : FilePath) (l : List EntryAnswers) (p : Preparation) :
    Outcome PrepareError Unit × Preparation → Prop
  | all {p'} (h : ∀ e ∈ l, e.Recorded) (hholds : Holds p p' (handles l) (handles l)) :
      EntriesRun dirName l p (ok (), p')
  | stops {before e after x t p'} (hl : l = before ++ e :: after) (h : ∀ e ∈ before, e.Recorded)
      (hholds : Holds p t (handles before) (handles before))
      (he : EntryRun dirName e t (error x, p')) : EntriesRun dirName l p (error x, p')

lemma recordEntries_run (dirName : FilePath) (l : List EntryAnswers) (p : Preparation) :
    EntriesRun dirName l p (l.forM (recordEntry dirName) p) := by
  induction l generalizing p with
  | nil => exact .all (by nofun) (.refl p)
  | cons e l ih =>
    have he := recordEntry_run dirName e p
    rw [Effect.forM_cons]
    rcases hx : recordEntry dirName e p with ⟨_ | x | _, p'⟩ <;> rw [hx] at he
    · rw [Effect.bind_of_ok hx]
      obtain ⟨hrecorded, hholds⟩ := he.recorded
      have hl := ih p'
      generalize l.forM (recordEntry dirName) p' = r at hl
      cases hl with
      | all h hall =>
        exact .all (List.forall_mem_cons.mpr ⟨hrecorded, h⟩) (hholds.trans hall)
      | stops hl h hbefore hstop =>
        exact .stops (by rw [hl, List.cons_append]) (List.forall_mem_cons.mpr ⟨hrecorded, h⟩)
          (hholds.trans hbefore) hstop
    · rw [Effect.bind_of_error hx]
      exact .stops (List.nil_append _).symm (by nofun) (.refl p) he
    · cases he

/-- The record of the directory itself throws. -/
def RootThrows (a : Answers) (dirPath : FilePath) : Prop :=
  dirPath.filename ≠ "" ∧ a.permissions = .error ()

/-- After `_info` has been set. -/
def started (sourceIsDirectory : Bool) : Preparation where
  hasInfo := true
  sourceIsDirectory := sourceIsDirectory

/-- How the preparation of a directory ends on a new object. -/
inductive DirectoryRun (a : Answers) (dirPath : FilePath) :
    Outcome PrepareError Unit × Preparation → Prop
  | rootThrown (h : RootThrows a dirPath) :
      DirectoryRun a dirPath (error .filesystemError, started true)
  | stops {p x p'} (hroot : ¬ RootThrows a dirPath) (hholds : Holds (started true) p [] [])
      (hr : EntriesRun (Source.dirName dirPath) a.entries p (error x, p')) :
      DirectoryRun a dirPath (error x, p')
  | iteratorThrown {p p'} (hroot : ¬ RootThrows a dirPath) (hholds : Holds (started true) p [] [])
      (hr : EntriesRun (Source.dirName dirPath) a.entries p (ok (), p'))
      (hiterator : a.iterator = .error ()) : DirectoryRun a dirPath (error .filesystemError, p')
  | read {p p'} (hroot : ¬ RootThrows a dirPath) (hholds : Holds (started true) p [] [])
      (hr : EntriesRun (Source.dirName dirPath) a.entries p (ok (), p'))
      (hiterator : a.iterator = .ok ()) : DirectoryRun a dirPath (ok (), p')

/-- How the body of the constructor ends on a new object. -/
inductive ConstructRun (a : Answers) (srcPath : FilePath) (recursive : Bool) :
    Outcome PrepareError Unit × Preparation → Prop
  | statusThrown (h : a.status = .error ()) :
      ConstructRun a srcPath recursive (error .filesystemError, {})
  | unsupported {type e message} (htype : a.status = .ok type) (herrno : e ≠ 0)
      (hregular : type ≠ .regular) (hdir : type = .directory → recursive = false) :
      ConstructRun a srcPath recursive (error (.transferError ⟨e, message⟩), {})
  | fileFails {x p'} (htype : a.status = .ok .regular)
      (hr : OpenRun srcPath a.file (started false) (error x, p')) :
      ConstructRun a srcPath recursive (error x, p')
  | fileRead {ctx fi t p'} (htype : a.status = .ok .regular)
      (hr : OpenRun srcPath a.file (started false) (ok (ctx, fi), t))
      (hctx : p'.sendCtx = [ctx]) (hinfo : p'.dirsInfo = [] ∧ p'.filesInfo = [fi]) :
      ConstructRun a srcPath recursive (ok (), p')
  | directory {r} (htype : a.status = .ok .directory) (hrecursive : recursive = true)
      (hr : DirectoryRun a srcPath r) : ConstructRun a srcPath recursive r

lemma setInfo_new (sourceIsDirectory : Bool) :
    setInfo sourceIsDirectory {} = (ok (), started sourceIsDirectory) := rfl

/-- What has been recorded grows by these directories and files. -/
structure Records (p p' : Preparation) (dirs : List BasicDirectoryInfo)
    (files : List BasicFileInfo) : Prop where
  sourceIsDirectory : p'.sourceIsDirectory = p.sourceIsDirectory
  dirsInfo : p'.dirsInfo = p.dirsInfo ++ dirs
  filesInfo : p'.filesInfo = p.filesInfo ++ files

/-- The record of the directory itself keeps no handle. -/
lemma recordRoot_run (a : Answers) (dirPath : FilePath) :
    (RootThrows a dirPath ∧
      recordRoot a dirPath (started true) = (error .filesystemError, started true)) ∨
    (¬ RootThrows a dirPath ∧ ∃ p, recordRoot a dirPath (started true) = (ok (), p) ∧
      Holds (started true) p [] [] ∧ ∀ permissions, a.permissions = .ok permissions →
        Records (started true) p (Source.recordRoot dirPath permissions) []) := by
  unfold recordRoot RootThrows Source.recordRoot
  split_ifs with hname
  · exact .inr ⟨fun h => h.1 hname, _, rfl, .refl _, fun _ _ => ⟨rfl, rfl, rfl⟩⟩
  · cases hperm : a.permissions with
    | error u => exact .inl ⟨⟨hname, rfl⟩, rfl⟩
    | ok permissions =>
      refine .inr ⟨by simp, _, rfl, ⟨rfl, rfl, rfl⟩, fun permissions' h => ?_⟩
      cases h
      exact ⟨rfl, rfl, rfl⟩

lemma prepareTransferDirectory_run (a : Answers) (dirPath : FilePath) :
    DirectoryRun a dirPath (prepareTransferDirectory a dirPath {}) := by
  rw [prepareTransferDirectory, Effect.bind_of_ok (setInfo_new true)]
  rcases recordRoot_run a dirPath with ⟨hroot, hrun⟩ | ⟨hroot, p, hrun, hholds, -⟩
  · rw [Effect.bind_of_error hrun]
    exact .rootThrown hroot
  · rw [Effect.bind_of_ok hrun]
    have hentries := recordEntries_run (Source.dirName dirPath) a.entries p
    generalize hx : a.entries.forM (recordEntry (Source.dirName dirPath)) p = x at hentries
    rcases x with ⟨_ | x | _, p'⟩
    · rw [Effect.bind_of_ok hx, library]
      cases hiterator : a.iterator with
      | error u => exact .iteratorThrown hroot hholds hentries hiterator
      | ok u => exact .read hroot hholds hentries hiterator
    · rw [Effect.bind_of_error hx]
      exact .stops hroot hholds hentries
    · cases hentries

lemma prepareTransferRegularFile_run (a : Answers) (srcPath : FilePath) {recursive : Bool}
    (htype : a.status = .ok .regular) :
    ConstructRun a srcPath recursive (prepareTransferRegularFile a srcPath {}) := by
  rw [prepareTransferRegularFile, Effect.bind_of_ok (setInfo_new false)]
  have hopen := internalOpenRegularFile_run srcPath a.file (started false)
  generalize hx : internalOpenRegularFile srcPath a.file (started false) = x at hopen
  rcases x with ⟨⟨ctx, fi⟩ | x | _, p'⟩
  · rw [Effect.bind_of_ok hx]
    refine .fileRead htype hopen ?_ ?_
    · cases hopen with
      | opened _ _ hholds => exact congrArg (· ++ _) hholds.sendCtx
    · cases hopen with
      | opened _ _ _ hsame => exact ⟨hsame.1, congrArg (· ++ _) hsame.2⟩
  · rw [Effect.bind_of_error hx]
    exact .fileFails htype hopen
  · cases hopen

lemma construct_run (a : Answers) (srcPath : FilePath) {transferBlockSize : ℕ}
    (hsize : transferBlockSize ≤ maxTransferBlockSize) (recursive : Bool) :
    ConstructRun a srcPath recursive (construct a srcPath transferBlockSize recursive {}) := by
  unfold construct
  rw [assert_of (Source.initBlockSize_pos hsize), assert_of hsize]
  simp only [Effect.lift_ok_bind, library]
  cases htype : a.status with
  | error u => exact .statusThrown htype
  | ok type =>
    simp only [orThrowLibrary, Effect.lift_ok_bind]
    unfold prepareTransfer
    cases type with
    | regular => exact prepareTransferRegularFile_run a srcPath htype
    | directory =>
      simp only
      split_ifs with hrecursive
      · exact .directory htype hrecursive (prepareTransferDirectory_run a srcPath)
      · exact .unsupported htype (by decide) (by decide) fun _ => by simpa using hrecursive
    | _ => exact .unsupported htype (by decide) (by decide) fun h => by cases h

/-- A constructor that throws has disposed the object, and its block size is not too large. -/
lemma transferSource_error {a : Answers} {srcPath : FilePath} {transferBlockSize : ℕ}
    {recursive : Bool} {x : PrepareError}
    (h : (transferSource a srcPath transferBlockSize recursive).1 = error x) :
    ∃ p, ConstructRun a srcPath recursive (error x, p) ∧
      transferSource a srcPath transferBlockSize recursive = (error x, p.disposeImpl) := by
  by_cases hsize : transferBlockSize ≤ maxTransferBlockSize
  · have hrun := construct_run a srcPath hsize recursive
    unfold transferSource at h ⊢
    generalize construct a srcPath transferBlockSize recursive {} = r at h hrun
    obtain ⟨_ | y | _, p⟩ := r
    · cases h
    · cases h
      exact ⟨p, hrun, rfl⟩
    · cases h
  · have hassert : (assert (transferBlockSize ≤ maxTransferBlockSize) : Outcome PrepareError Unit) =
        aborted := if_neg hsize
    unfold transferSource construct at h
    rw [hassert] at h
    by_cases hinit : 0 < Source.initBlockSize transferBlockSize
    · rw [assert_of hinit] at h
      cases h
    · have hassert' : (assert (0 < Source.initBlockSize transferBlockSize) :
          Outcome PrepareError Unit) = aborted := if_neg hinit
      rw [hassert'] at h
      cases h

/-! ### Agreement with the constructor over a file system -/

section Agreement

variable {fs : FileSystem} {special : FilePath → SpecialType} {dirPath srcPath : FilePath}

/-- A file of this size and mode opens exactly if it is readable. -/
def FileAgrees (file : FileAnswers) (size : Fin (2 ^ 63)) (mode : ℕ) (readable : Bool) : Prop :=
  if readable then (∃ fd, file.openFile = .ok fd) ∧ file.fstat = .ok (size, mode)
  else file.openFile = .error 13

/-- The relative path of the entry is the one in the file system. -/
def RelativeAgrees (fs : FileSystem) (dirPath : FilePath) (e : EntryAnswers) : Prop :=
  (orThrowLibrary e.relative >>= fun relative => ok (Source.dirName dirPath / relative)) =
    Source.relativePath fs dirPath e.path

/-- The answers for an entry that is this node. -/
def NodeAgrees (fs : FileSystem) (dirPath : FilePath) (e : EntryAnswers) :
    Except ResolveError Node → Prop
  | .ok (.directory mode _ _) =>
    RelativeAgrees fs dirPath e ∧ e.isDirectory = .ok true ∧ e.permissions = .ok mode
  | .ok (.regular size mode readable) =>
    RelativeAgrees fs dirPath e ∧ e.isDirectory = .ok false ∧ e.isRegularFile = .ok true ∧
      FileAgrees e.file size mode readable
  | .ok .special | .ok (.link _) | .error .notFound =>
    (∃ relative, e.relative = .ok relative) ∧ e.isDirectory = .ok false ∧
      e.isRegularFile = .ok false
  | .error .tooManyLinks => e.relative = .error ()

/-- The answers for an entry are those of the file system. -/
structure EntryAgrees (fs : FileSystem) (dirPath : FilePath) (e : EntryAnswers)
    (entry : List String × Node) : Prop where
  path : e.path = dirPath / ⟨false, entry.1⟩
  node : NodeAgrees fs dirPath e (fs.status e.path)

/-- The answers are those of the file system. -/
structure Agrees (fs : FileSystem) (special : FilePath → SpecialType) (srcPath : FilePath)
    (a : Answers) : Prop where
  status : orThrowLibrary a.status = statusType fs special srcPath
  file : ∀ size mode readable, fs.status srcPath = .ok (.regular size mode readable) →
    FileAgrees a.file size mode readable
  permissions : ∀ mode readable entries,
    fs.status srcPath = .ok (.directory mode readable entries) → a.permissions = .ok mode
  entries : List.Forall₂ (EntryAgrees fs srcPath) a.entries (fs.visited srcPath)
  iterator : a.iterator = .ok ()

lemma internalOpenRegularFile_agrees (filePath : FilePath) {file : FileAnswers}
    {size : Fin (2 ^ 63)} {mode : ℕ} {readable : Bool} (h : FileAgrees file size mode readable)
    (p : Preparation) :
    (readable = true ∧ ∃ ctx p', internalOpenRegularFile filePath file p =
        (ok (ctx, fileInfo filePath (size, mode)), p') ∧ Records p p' [] [] ∧
        Source.internalOpenRegularFile filePath size mode readable =
          ok (fileInfo filePath (size, mode))) ∨
    (∃ e, internalOpenRegularFile filePath file p = (error e, p) ∧
      Source.internalOpenRegularFile filePath size mode readable = error e) := by
  unfold FileAgrees at h
  unfold internalOpenRegularFile Source.internalOpenRegularFile
  cases readable with
  | true =>
    obtain ⟨⟨fd, hopen⟩, hstat⟩ := h
    rw [hopen, hstat]
    exact .inl ⟨rfl, _, _, rfl, ⟨rfl, (List.append_nil _).symm, (List.append_nil _).symm⟩, rfl⟩
  | false =>
    have hopen : file.openFile = .error 13 := h
    rw [hopen]
    exact .inr ⟨_, rfl, rfl⟩

/-- The bodies of the two loops end the same way for an entry. -/
inductive EntryPair (p : Preparation) :
    Outcome PrepareError Unit × Preparation → Outcome PrepareError Source.Recorded → Prop
  | recorded {r p'} (h : Records p p' r.directory?.toList r.file?.toList) :
      EntryPair p (ok (), p') (ok r)
  | failed {x p'} : EntryPair p (error x, p') (error x)

lemma recordEntry_agrees {e : EntryAnswers} {entry : List String × Node}
    (h : EntryAgrees fs dirPath e entry) (p : Preparation) :
    EntryPair p (recordEntry (Source.dirName dirPath) e p) (Source.recordEntry fs dirPath entry) := by
  have hnode := h.node
  unfold recordEntry Source.recordEntry
  simp only [← h.path]
  -- the relative path is the same, or throws in both
  have hrelative : RelativeAgrees fs dirPath e → ∀ {f : FilePath → Prepare Unit}
      {g : FilePath → Outcome PrepareError Source.Recorded},
      (∀ relative, EntryPair p (f relative p) (g (Source.dirName dirPath / relative))) →
      EntryPair p ((library e.relative >>= f) p) (Source.relativePath fs dirPath e.path >>= g) := by
    intro hagrees f g hfg
    rw [← hagrees, library]
    cases e.relative with
    | error u => exact .failed
    | ok relative => exact hfg relative
  cases hstatus : fs.status e.path with
  | error x =>
    rw [hstatus] at hnode
    cases x with
    | notFound =>
      obtain ⟨⟨relative, hrel⟩, hdir, hregular⟩ := hnode
      rw [hrel, hdir, hregular]
      exact .failed
    | tooManyLinks =>
      have hrel : e.relative = .error () := hnode
      rw [hrel]
      exact .failed
  | ok node =>
    rw [hstatus] at hnode
    cases node with
    | directory mode readable entries =>
      obtain ⟨hagrees, hdir, hperm⟩ := hnode
      rw [hdir, hperm]
      refine hrelative (g := fun relativePath => ok (.directory
        { relativePath := relativePath, posixPerm := mode &&& 0o7777 })) hagrees fun _ => ?_
      exact .recorded ⟨rfl, rfl, (List.append_nil _).symm⟩
    | regular size mode readable =>
      obtain ⟨hagrees, hdir, hregular, hfile⟩ := hnode
      rw [hdir, hregular]
      refine hrelative (g := fun relativePath =>
        Source.internalOpenRegularFile e.path size mode readable >>= fun fi =>
          ok (.file { fi with relativePath := relativePath })) hagrees fun relative => ?_
      simp only [library, orThrowLibrary, Effect.lift_ok_bind, if_true, Bool.false_eq_true, if_false]
      rcases internalOpenRegularFile_agrees e.path hfile p with
        ⟨-, ctx, p', hopen, hrecords, hopen'⟩ | ⟨x, hopen, hopen'⟩
      · rw [Effect.bind_of_ok hopen, hopen']
        exact .recorded ⟨hrecords.sourceIsDirectory,
          hrecords.dirsInfo, congrArg (· ++ _) (hrecords.filesInfo.trans (List.append_nil _))⟩
      · rw [Effect.bind_of_error hopen, hopen']
        exact .failed
    | special | link =>
      obtain ⟨⟨relative, hrel⟩, hdir, hregular⟩ := hnode
      rw [hrel, hdir, hregular]
      exact .failed

lemma Records.trans {p p' p'' : Preparation} {dirs dirs' : List BasicDirectoryInfo}
    {files files' : List BasicFileInfo} (h : Records p p' dirs files)
    (h' : Records p' p'' dirs' files') : Records p p'' (dirs ++ dirs') (files ++ files') := by
  refine ⟨h'.sourceIsDirectory.trans h.sourceIsDirectory, ?_, ?_⟩
  · rw [h'.dirsInfo, h.dirsInfo, List.append_assoc]
  · rw [h'.filesInfo, h.filesInfo, List.append_assoc]

/-- The two loops end the same way. -/
inductive EntriesPair (p : Preparation) :
    Outcome PrepareError Unit × Preparation → Outcome PrepareError (List Source.Recorded) → Prop
  | recorded {l p'} (h : Records p p' (l.filterMap Source.Recorded.directory?)
      (l.filterMap Source.Recorded.file?)) : EntriesPair p (ok (), p') (ok l)
  | failed {x p'} : EntriesPair p (error x, p') (error x)

lemma recordEntries_agrees {l : List EntryAnswers} {entries : List (List String × Node)}
    (h : List.Forall₂ (EntryAgrees fs dirPath) l entries) (p : Preparation) :
    EntriesPair p (l.forM (recordEntry (Source.dirName dirPath)) p)
      (entries.mapM (Source.recordEntry fs dirPath)) := by
  induction h generalizing p with
  | nil => exact .recorded ⟨rfl, (List.append_nil _).symm, (List.append_nil _).symm⟩
  | @cons e entry l entries he _ ih =>
    rw [Effect.forM_cons, List.mapM_cons]
    have hpair := recordEntry_agrees he p
    generalize hx : recordEntry (Source.dirName dirPath) e p = x at hpair
    generalize Source.recordEntry fs dirPath entry = y at hpair
    cases hpair with
    | failed =>
      rw [Effect.bind_of_error hx]
      exact .failed
    | @recorded r p' hr =>
      rw [Effect.bind_of_ok hx, ok_bind]
      have hl := ih p'
      generalize l.forM (recordEntry (Source.dirName dirPath)) p' = x at hl
      generalize entries.mapM (Source.recordEntry fs dirPath) = y at hl
      cases hl with
      | failed => exact .failed
      | recorded h =>
        refine .recorded ?_
        have htrans := hr.trans h
        cases r with
        | directory | file => exact htrans

/-- A source that has been prepared has the information that the other constructor yields. -/
def SameResult (p : Preparation) (info : (F : ℕ) × BasicTransferInfo F) : Prop :=
  p.sourceIsDirectory = info.2.sourceIsDirectory ∧ p.dirsInfo = info.2.dirsInfo ∧
    p.filesInfo = List.ofFn info.2.filesInfo

/-- The two preparations end the same way. -/
inductive PreparePair :
    Outcome PrepareError Unit × Preparation →
      Outcome PrepareError ((F : ℕ) × BasicTransferInfo F) → Prop
  | prepared {p info} (h : SameResult p info) : PreparePair (ok (), p) (ok info)
  | failed {x p} : PreparePair (error x, p) (error x)

lemma prepareTransferRegularFile_agrees {a : Answers} (h : Agrees fs special srcPath a)
    {size : Fin (2 ^ 63)} {mode : ℕ} {readable : Bool}
    (hstatus : fs.status srcPath = .ok (.regular size mode readable)) :
    PreparePair (prepareTransferRegularFile a srcPath {})
      (Source.prepareTransferRegularFile fs srcPath) := by
  rw [prepareTransferRegularFile, Effect.bind_of_ok (setInfo_new false),
    Source.prepareTransferRegularFile, hstatus]
  rcases internalOpenRegularFile_agrees srcPath (h.file _ _ _ hstatus)
    (started false) with ⟨-, ctx, p', hopen, hrecords, hopen'⟩ | ⟨x, hopen, hopen'⟩
  · rw [Effect.bind_of_ok hopen]
    simp only [hopen']
    refine .prepared ⟨hrecords.sourceIsDirectory, hrecords.dirsInfo, ?_⟩
    exact congrArg (· ++ _) hrecords.filesInfo
  · rw [Effect.bind_of_error hopen]
    simp only [hopen']
    exact .failed

lemma prepareTransferDirectory_agrees {a : Answers} (h : Agrees fs special srcPath a)
    {mode : ℕ} {readable : Bool} {entries : Entries}
    (hstatus : fs.status srcPath = .ok (.directory mode readable entries)) :
    PreparePair (prepareTransferDirectory a srcPath {})
      (Source.prepareTransferDirectory fs srcPath) := by
  have hperm := h.permissions _ _ _ hstatus
  rw [prepareTransferDirectory, Effect.bind_of_ok (setInfo_new true),
    Source.prepareTransferDirectory, hstatus]
  rcases recordRoot_run a srcPath with ⟨hroot, -⟩ | ⟨-, p, hrun, -, hroot⟩
  · cases hroot.2.symm.trans hperm
  · rw [Effect.bind_of_ok hrun]
    have hpair := recordEntries_agrees h.entries p
    generalize hx : a.entries.forM (recordEntry (Source.dirName srcPath)) p = x at hpair
    simp only
    generalize (fs.visited srcPath).mapM (Source.recordEntry fs srcPath) = y at hpair
    cases hpair with
    | failed =>
      rw [Effect.bind_of_error hx]
      exact .failed
    | @recorded l p' hrecords =>
      rw [Effect.bind_of_ok hx, library, h.iterator]
      have htrans := (hroot mode hperm).trans hrecords
      refine .prepared ⟨htrans.sourceIsDirectory, htrans.dirsInfo, htrans.filesInfo.trans ?_⟩
      exact (List.ofFn_get _).symm

lemma prepareTransfer_agrees {a : Answers} (h : Agrees fs special srcPath a) (recursive : Bool) :
    PreparePair ((library a.status >>= prepareTransfer a srcPath recursive) {})
      (Source.prepareTransfer fs special srcPath recursive) := by
  unfold Source.prepareTransfer
  rw [library, h.status]
  unfold statusType
  cases hstatus : fs.status srcPath with
  | error x => cases x <;> exact .failed
  | ok node =>
    cases node with
    | regular => exact prepareTransferRegularFile_agrees h hstatus
    | directory =>
      simp only [Effect.lift_ok_bind, ok_bind, prepareTransfer]
      split_ifs
      · exact prepareTransferDirectory_agrees h hstatus
      · exact .failed
    | special => cases special srcPath <;> exact .failed
    | link => exact .failed

/-- The constructor ends as the one over a file system does, and a source that has been constructed
has the same information. -/
theorem transferSource_agrees {a : Answers} (h : Agrees fs special srcPath a)
    (transferBlockSize : ℕ) (recursive : Bool) :
    let r := transferSource a srcPath transferBlockSize recursive
    let o := Source.transferSource fs special srcPath transferBlockSize recursive
    r.1 = (o >>= fun _ => ok ()) ∧ ∀ t, o = ok t → SameResult r.2 t.info := by
  intro r o
  change (transferSource a srcPath transferBlockSize recursive).1 =
    (Source.transferSource fs special srcPath transferBlockSize recursive >>= _) ∧
    ∀ t, Source.transferSource fs special srcPath transferBlockSize recursive = ok t →
      SameResult (transferSource a srcPath transferBlockSize recursive).2 t.info
  unfold transferSource construct Source.transferSource
  by_cases hsize : transferBlockSize ≤ maxTransferBlockSize
  · rw [assert_of (Source.initBlockSize_pos hsize), assert_of hsize]
    simp only [Effect.lift_ok_bind, ok_bind]
    have hpair := prepareTransfer_agrees h recursive
    generalize (library a.status >>= prepareTransfer a srcPath recursive) {} = x at hpair
    generalize Source.prepareTransfer fs special srcPath recursive = y at hpair
    cases hpair with
    | prepared hsame =>
      refine ⟨rfl, fun t ht => ?_⟩
      cases ht
      exact hsame
    | failed => exact ⟨rfl, nofun⟩
  · have hassert : (assert (transferBlockSize ≤ maxTransferBlockSize) : Outcome PrepareError Unit) =
        aborted := if_neg hsize
    rw [hassert]
    by_cases hinit : 0 < Source.initBlockSize transferBlockSize
    · rw [assert_of hinit]
      exact ⟨rfl, nofun⟩
    · have hassert' : (assert (0 < Source.initBlockSize transferBlockSize) :
          Outcome PrepareError Unit) = aborted := if_neg hinit
      rw [hassert']
      exact ⟨rfl, nofun⟩

end Agreement

end SourcePrepare

end Xcp
