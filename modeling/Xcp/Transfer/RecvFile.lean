import Xcp.Message

/-!
# Files of a receiving transfer

`transfer_destination` opens every file in advance, maps the files that are not empty and counts
what it receives for each. This is the Linux build: `close_handle` and `unmap_file` are guarded by
the descriptor, and the system calls they make are recorded.
-/

namespace Xcp

open Outcome

/-- What a file of the destination contains. -/
structure FileImage where
  size : ℕ
  byte : ℕ → UInt8

/-- `ftruncate` (and `O_TRUNC`, to size zero): bytes behind the old end read as zero. -/
def FileImage.truncate (img : FileImage) (size : ℕ) : FileImage where
  size := size
  byte p := if p < img.size ∧ p < size then img.byte p else 0

/-- Bytes stored at address `addr`, as they show in a file whose first `length` bytes are mapped
at `base`. -/
def FileImage.store (img : FileImage) (base length addr : ℕ) (bytes : List UInt8) : FileImage where
  size := img.size
  byte p :=
    if p < length ∧ addr ≤ base + p ∧ base + p < addr + bytes.length then
      bytes.getD (base + p - addr) 0
    else img.byte p

/-- The system calls that obtain and release descriptors and mappings. -/
inductive Syscall where
  | open (fd : Fd)
  | mmap (addr length : ℕ)
  | munmap (addr length : ℕ)
  | close (fd : Fd)
  deriving DecidableEq

/-- `recv_file_context`; addresses are not zero, so `nullptr` is `none`. -/
structure RecvFileContext where
  receivedSize : ℕ := 0
  mappedLength : ℕ := 0
  dstFileMapped : Option ℕ := none
  fileHandle : Option Fd := none
  deriving DecidableEq

namespace RecvFileContext

variable (ctx : RecvFileContext)

/-- `close_handle`. -/
def closeHandle : RecvFileContext × List Syscall :=
  match ctx.fileHandle with
  | some fd => ({ ctx with fileHandle := none }, [.close fd])
  | none    => (ctx, [])

/-- `unmap_file`: on Linux the guard is the descriptor. -/
def unmapFile : RecvFileContext × List Syscall :=
  match ctx.fileHandle with
  | some _ => ({ ctx with dstFileMapped := none, mappedLength := 0 },
      [.munmap (ctx.dstFileMapped.getD 0) ctx.mappedLength])
  | none   => (ctx, [])

@[simp] lemma receivedSize_closeHandle : ctx.closeHandle.1.receivedSize = ctx.receivedSize := by
  unfold closeHandle; split <;> rfl

@[simp] lemma dstFileMapped_closeHandle : ctx.closeHandle.1.dstFileMapped = ctx.dstFileMapped := by
  unfold closeHandle; split <;> rfl

@[simp] lemma mappedLength_closeHandle : ctx.closeHandle.1.mappedLength = ctx.mappedLength := by
  unfold closeHandle; split <;> rfl

@[simp] lemma fileHandle_closeHandle : ctx.closeHandle.1.fileHandle = none := by
  unfold closeHandle; split <;> simp_all

@[simp] lemma receivedSize_unmapFile : ctx.unmapFile.1.receivedSize = ctx.receivedSize := by
  unfold unmapFile; split <;> rfl

@[simp] lemma fileHandle_unmapFile : ctx.unmapFile.1.fileHandle = ctx.fileHandle := by
  unfold unmapFile; split <;> rfl

end RecvFileContext

/-! ### Opening -/

/-- What the system answers for the files of a transfer: a value, or `errno`. Descriptors that are
open at once differ, and regions that are mapped at once lie apart in the address space. -/
structure OsAnswers {F : ℕ} (info : BasicTransferInfo F) where
  openFile : Fin F → Except ℕ Fd
  fchmod : Fin F → Except ℕ Unit
  ftruncate : Fin F → Except ℕ Unit
  mmap : Fin F → Except ℕ ℕ
  openFile_inj : ∀ {m n fd}, openFile m = .ok fd → openFile n = .ok fd → m = n
  mmap_range : ∀ {n a}, mmap n = .ok a → 0 < a ∧ a + info.fileSize n ≤ 2 ^ 64
  mmap_apart : ∀ {m n a b}, m ≠ n → mmap m = .ok a → mmap n = .ok b →
    0 < info.fileSize m → 0 < info.fileSize n →
    a + info.fileSize m ≤ b ∨ b + info.fileSize n ≤ a

/-- A system call that throws `transfer_error` with its `errno` when it fails. -/
def orThrow {α : Type} (answer : Except ℕ α) (message : String) : Outcome PrepareError α :=
  match answer with
  | .ok a    => .ok a
  | .error e => .error (.transferError ⟨e, message⟩)

@[simp] lemma orThrow_eq_ok {α : Type} {answer : Except ℕ α} {message : String} {a : α} :
    orThrow answer message = ok a ↔ answer = .ok a := by
  cases answer <;> simp [orThrow]

/-- A call of the library that throws when it fails. -/
def orThrowLibrary {α : Type} : Except Unit α → Outcome PrepareError α
  | .ok a    => .ok a
  | .error _ => .error .filesystemError

@[simp] lemma orThrowLibrary_eq_ok {α : Type} {answer : Except Unit α} {a : α} :
    orThrowLibrary answer = ok a ↔ answer = .ok a := by
  cases answer <;> simp [orThrowLibrary]

/-- What `internal_open_regular_file` produces. -/
structure OpenedFile where
  ctx : RecvFileContext
  content : FileImage
  syscalls : List Syscall

section Open

variable {F : ℕ} {info : BasicTransferInfo F} (os : OsAnswers info)

/-- The permissions that a file is created with. -/
def createPerm (fi : BasicFileInfo) : Outcome PrepareError ℕ :=
  if fi.posixPerm = 0 then
    .ok 0o644
  else do
    assert (fi.posixPerm &&& 0o7777 = fi.posixPerm)
    pure fi.posixPerm

/-- `transfer_destination::internal_open_regular_file` for file `n`, which contained `previous`
(a new file contains nothing). A size always fits `size_t`, which has 64 bits. -/
def internalOpenRegularFile (filePath : String) (n : Fin F) (previous : FileImage) :
    Outcome PrepareError OpenedFile := do
  let fi := info.filesInfo n
  let _perm ← createPerm fi
  let fd ← orThrow (os.openFile n) ("open() " ++ filePath ++ " for write failed")
  orThrow (os.fchmod n) ("fchmod() " ++ filePath ++ " failed")
  let ctx : RecvFileContext := { mappedLength := fi.fileSize, fileHandle := some fd }
  let content := previous.truncate 0
  if 0 < fi.fileSize then
    orThrow (os.ftruncate n)
      ("ftruncate64() " ++ filePath ++ " to " ++ toString fi.fileSize ++ " failed")
    let addr ← orThrow (os.mmap n) ("mmap() " ++ filePath ++ " for write failed")
    pure ⟨{ ctx with dstFileMapped := some addr }, content.truncate fi.fileSize,
      [.open fd, .mmap addr fi.fileSize]⟩
  else
    pure ⟨ctx, content, [.open fd]⟩

variable {os}

/-- An opened file is zero up to its size, and mapped unless it is empty. -/
lemma internalOpenRegularFile_ok {filePath : String} {n : Fin F} {previous : FileImage}
    {f : OpenedFile} (h : internalOpenRegularFile os filePath n previous = ok f) :
    ∃ fd, os.openFile n = .ok fd ∧ f.content = ⟨info.fileSize n, fun _ => 0⟩ ∧
      ((info.fileSize n = 0 ∧ f.ctx = { fileHandle := some fd } ∧ f.syscalls = [.open fd]) ∨
        ∃ addr, 0 < info.fileSize n ∧ os.mmap n = .ok addr ∧
          f.ctx = ⟨0, info.fileSize n, some addr, some fd⟩ ∧
          f.syscalls = [.open fd, .mmap addr (info.fileSize n)]) := by
  simp only [internalOpenRegularFile, bind_eq_ok, orThrow_eq_ok] at h
  obtain ⟨-, -, fd, hfd, -, -, h⟩ := h
  refine ⟨fd, hfd, ?_⟩
  split_ifs at h with hsize
  · simp only [bind_eq_ok, orThrow_eq_ok] at h
    obtain ⟨-, -, addr, haddr, h⟩ := h
    cases h
    exact ⟨by simp [FileImage.truncate], .inr ⟨addr, hsize, haddr, rfl, rfl⟩⟩
  · cases h
    have hzero : (info.filesInfo n).fileSize = 0 := by omega
    exact ⟨by simp [FileImage.truncate, hzero], .inl ⟨hzero, by simp [hzero], rfl⟩⟩

end Open

end Xcp
