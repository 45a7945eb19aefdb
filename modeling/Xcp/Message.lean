import Xcp.Infra.Basic
import Xcp.Library.Path

/-!
# Messages

The data that the two sides exchange over the portal connection, and the exception that a transfer
throws. A relative path is kept as the path that its string denotes.
-/

namespace Xcp

/-- `basic_file_info`. -/
structure BasicFileInfo where
  relativePath : FilePath := {}
  fileSize : ℕ := 0
  posixPerm : ℕ := 0
  fileSize_lt : fileSize < 2 ^ 64 := by decide

/-- `basic_directory_info`. -/
structure BasicDirectoryInfo where
  relativePath : FilePath := {}
  posixPerm : ℕ := 0
  deriving DecidableEq

/-- `basic_transfer_info` with `F` files. -/
structure BasicTransferInfo (F : ℕ) where
  sourceIsDirectory : Bool
  dirsInfo : List BasicDirectoryInfo := []
  filesInfo : Fin F → BasicFileInfo

/-- `transfer_error`. -/
structure TransferError where
  errorCode : ℕ
  errorMessage : String
  deriving DecidableEq

/-- How the preparation of a transfer fails: with a `transfer_error` or with an exception of the
library. -/
inductive PrepareError where
  | transferError (e : TransferError)
  | filesystemError
  deriving DecidableEq

/-- `message_transfer_destination_finished`. -/
structure MessageTransferDestinationFinished where
  errorCode : ℕ := 0
  errorMessage : String := ""
  deriving DecidableEq

variable {F : ℕ}

/-- The size of file `n`. -/
abbrev BasicTransferInfo.fileSize (info : BasicTransferInfo F) (n : Fin F) : ℕ :=
  (info.filesInfo n).fileSize

end Xcp
