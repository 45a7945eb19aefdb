import Xcp.Library.Bytes
import Xcp.ProgramOptions
import Xcp.Transfer.SourceDirectory

/-!
# Preparing a sending transfer

The constructor of `transfer_source`: the block size, the type of the path, and the files that are
opened. Of a file system it reads what `status` answers, which for a special file is one of four
types. Only the two checks of the block size can abort.
-/

namespace Xcp

open Outcome ProgramOptionsDefaults

/-- The types of a special file. -/
inductive SpecialType where
  | block
  | character
  | fifo
  | socket
  deriving DecidableEq, Repr

/-- As `file_type` names them. -/
def SpecialType.fileType : SpecialType → FileType
  | block     => .block
  | character => .character
  | fifo      => .fifo
  | socket    => .socket

/-- `status(p).type()`. -/
def statusType (fs : FileSystem) (special : FilePath → SpecialType) (p : FilePath) :
    Outcome PrepareError FileType :=
  match fs.status p with
  | .ok (.regular _ _ _)   => .ok .regular
  | .ok (.directory _ _ _) => .ok .directory
  | .ok .special           => .ok (special p).fileType
  | .ok (.link _)          => .ok .unknown
  | .error .notFound       => .ok .notFound
  | .error .tooManyLinks   => .error .filesystemError

namespace Source

/-- `TRANSFER_BLOCK_SIZE_INIT`. -/
def transferBlockSizeInit : ℕ := 1024 * 1024 * 1

/-- `transfer_source` once constructed. -/
structure Prepared where
  isTransferBlockSizeFixed : Bool
  initTransferBlockSize : ℕ
  info : (F : ℕ) × BasicTransferInfo F

section Construct

variable (fs : FileSystem) (special : FilePath → SpecialType) (srcPath : FilePath)

/-- `prepare_transfer_regular_file`. -/
def prepareTransferRegularFile : Outcome PrepareError ((F : ℕ) × BasicTransferInfo F) :=
  match fs.status srcPath with
  | .ok (.regular size mode readable) => do
    let fi ← internalOpenRegularFile srcPath size mode readable
    pure ⟨1, { sourceIsDirectory := false, filesInfo := fun _ => fi }⟩
  | _ => .error (.transferError ⟨2, "open() " ++ srcPath.toString ++ " for read failed"⟩)

/-- The preparation that the constructor chooses by the type of the path. -/
def prepareTransfer (recursive : Bool) : Outcome PrepareError ((F : ℕ) × BasicTransferInfo F) := do
  let throw (errorCode : ℕ) (message : String) := .error (.transferError
    ⟨errorCode, message ++ srcPath.toString⟩)
  match ← statusType fs special srcPath with
  | .regular   => prepareTransferRegularFile fs srcPath
  | .directory =>
    if recursive then prepareTransferDirectory fs srcPath
    else throw 22 "Trying to transfer a directory without specifying \"-r\": "
  | .notFound  => throw 2 "File not found: "
  | .block     => throw 38 "Transfer a block device is not supported: "
  | .character => throw 38 "Transfer a character device is not supported: "
  | .fifo      => throw 38 "Transfer a FIFO file is not supported: "
  | .socket    => throw 38 "Transfer a socket file is not supported: "
  | .unknown   => throw 38 "Unknown file type: "

/-- The first member initialisers: whether the block size is fixed, and the initial one. -/
def initBlockSize (transferBlockSize : ℕ) : ℕ :=
  if transferBlockSize ≠ 0 then Bytes.toU32 transferBlockSize else transferBlockSizeInit

/-- `transfer_source::transfer_source`. -/
def transferSource (transferBlockSize : ℕ) (recursive : Bool) : Outcome PrepareError Prepared := do
  assert (0 < initBlockSize transferBlockSize)
  assert (transferBlockSize ≤ maxTransferBlockSize)
  let info ← prepareTransfer fs special srcPath recursive
  pure ⟨transferBlockSize ≠ 0, initBlockSize transferBlockSize, info⟩

end Construct

/-! ### What can abort -/

variable {fs : FileSystem} {special : FilePath → SpecialType} {srcPath : FilePath} {recursive : Bool}

lemma statusType_ne_aborted : statusType fs special srcPath ≠ aborted := by
  unfold statusType
  split <;> nofun

lemma internalOpenRegularFile_ne_aborted {path : FilePath} {size : Fin (2 ^ 63)} {mode : ℕ}
    {readable : Bool} : internalOpenRegularFile path size mode readable ≠ aborted := by
  unfold internalOpenRegularFile
  split_ifs <;> nofun

lemma relativePath_ne_aborted {path : FilePath} : relativePath fs srcPath path ≠ aborted := by
  unfold relativePath
  split <;> nofun

lemma recordEntry_ne_aborted {entry : List String × Node} :
    recordEntry fs srcPath entry ≠ aborted := by
  unfold recordEntry
  simp only
  split
  · apply bind_ne_aborted relativePath_ne_aborted
    nofun
  · apply bind_ne_aborted relativePath_ne_aborted
    intro relative _
    apply bind_ne_aborted internalOpenRegularFile_ne_aborted
    nofun
  all_goals nofun

lemma prepareTransferDirectory_ne_aborted : prepareTransferDirectory fs srcPath ≠ aborted := by
  unfold prepareTransferDirectory
  split
  · apply bind_ne_aborted (mapM_ne_aborted fun _ _ => recordEntry_ne_aborted)
    nofun
  · nofun

lemma prepareTransferRegularFile_ne_aborted :
    prepareTransferRegularFile fs srcPath ≠ aborted := by
  unfold prepareTransferRegularFile
  split
  · apply bind_ne_aborted internalOpenRegularFile_ne_aborted
    nofun
  · nofun

lemma prepareTransfer_ne_aborted : prepareTransfer fs special srcPath recursive ≠ aborted := by
  unfold prepareTransfer
  apply bind_ne_aborted statusType_ne_aborted
  intro type _
  cases type with
  | regular => exact prepareTransferRegularFile_ne_aborted
  | directory =>
    simp only
    split_ifs
    · exact prepareTransferDirectory_ne_aborted
    · nofun
  | _ => nofun

lemma initBlockSize_pos {transferBlockSize : ℕ} (hle : transferBlockSize ≤ maxTransferBlockSize) :
    0 < initBlockSize transferBlockSize := by
  unfold initBlockSize
  split_ifs with hzero
  · rw [Bytes.toU32_of_lt (hle.trans_lt (by decide))]
    exact Nat.pos_of_ne_zero hzero
  · decide

/-- The constructor aborts exactly for a block size that is too large. -/
lemma transferSource_eq_aborted {transferBlockSize : ℕ} :
    transferSource fs special srcPath transferBlockSize recursive = aborted ↔
      maxTransferBlockSize < transferBlockSize := by
  have hrest : (prepareTransfer fs special srcPath recursive >>= fun info =>
      pure ⟨transferBlockSize ≠ 0, initBlockSize transferBlockSize, info⟩) ≠
      (aborted : Outcome PrepareError Prepared) := by
    apply bind_ne_aborted prepareTransfer_ne_aborted
    nofun
  rw [transferSource, assert_bind_eq_aborted, assert_bind_eq_aborted]
  constructor
  · intro h
    by_contra hle
    exact hrest (h (initBlockSize_pos (not_lt.mp hle)) (not_lt.mp hle))
  · intro hlt _ hle
    exact absurd hle (not_le.mpr hlt)

end Source

end Xcp
