import Xcp.Infra.Basic
import Xcp.Infra.Sockaddr
import Xcp.Infra.User

/-!
# Messages on the wire

The messages that client and server exchange over the portal connection, with the fields and the
order in which they are serialised, and `message_send` and `message_recv`: a header with the type
and the size in network order, then an archive. A connection delivers its bytes in order and ends
when the peer closes it.
-/

namespace Xcp

open Archive Bytes

namespace Wire

/-- `basic_file_info`. -/
structure BasicFileInfo where
  relativePath : List UInt8 := []
  fileSize : UInt64 := 0
  posixPerm : UInt32 := 0
  deriving DecidableEq

/-- `basic_directory_info`. -/
structure BasicDirectoryInfo where
  relativePath : List UInt8 := []
  posixPerm : UInt32 := 0
  deriving DecidableEq

/-- `basic_transfer_info`. -/
structure BasicTransferInfo where
  sourceIsDirectory : Bool
  dirsInfo : List BasicDirectoryInfo := []
  filesInfo : List BasicFileInfo := []
  deriving DecidableEq

/-- `message_server_information`: the address and the repeats of every channel. -/
structure MessageServerInformation where
  serverChannels : List (Sockaddr × Size) := []
  deriving DecidableEq

/-- `message_client_transfer_request`. -/
structure MessageClientTransferRequest where
  isFromServerToClient : Bool
  serverPath : List UInt8 := []
  transferBlockSize : UInt64
  isRecursive : UInt64
  user : UserName := {}
  transferInfo : Option BasicTransferInfo := none
  deriving DecidableEq

/-- `message_server_transfer_response`. -/
structure MessageServerTransferResponse where
  errorCode : Int32 := 0
  errorMessage : List UInt8 := []
  transferInfo : Option BasicTransferInfo := none
  deriving DecidableEq

/-- `message_transfer_destination_finished`. -/
structure MessageTransferDestinationFinished where
  errorCode : Int32 := 0
  errorMessage : List UInt8 := []
  deriving DecidableEq

/-! ### Serialised fields -/

instance : Serial BasicFileInfo :=
  .fields (fun fi => (fi.relativePath, fi.fileSize, fi.posixPerm))
    fun (relativePath, fileSize, posixPerm) => ⟨relativePath, fileSize, posixPerm⟩

instance : Serial BasicDirectoryInfo :=
  .fields (fun di => (di.relativePath, di.posixPerm))
    fun (relativePath, posixPerm) => ⟨relativePath, posixPerm⟩

instance : Serial BasicTransferInfo :=
  .fields (fun info => (info.sourceIsDirectory, info.dirsInfo, info.filesInfo))
    fun (sourceIsDirectory, dirsInfo, filesInfo) => ⟨sourceIsDirectory, dirsInfo, filesInfo⟩

instance : Serial MessageServerInformation :=
  .fields (fun msg => msg.serverChannels) fun serverChannels => ⟨serverChannels⟩

instance : Serial MessageClientTransferRequest :=
  .fields
    (fun msg => (msg.isFromServerToClient, msg.serverPath, msg.transferBlockSize, msg.isRecursive,
      msg.user, msg.transferInfo))
    fun (isFromServerToClient, serverPath, transferBlockSize, isRecursive, user, transferInfo) =>
      ⟨isFromServerToClient, serverPath, transferBlockSize, isRecursive, user, transferInfo⟩

instance : Serial MessageServerTransferResponse :=
  .fields (fun msg => (msg.errorCode, msg.errorMessage, msg.transferInfo))
    fun (errorCode, errorMessage, transferInfo) => ⟨errorCode, errorMessage, transferInfo⟩

instance : Serial MessageTransferDestinationFinished :=
  .fields (fun msg => (msg.errorCode, msg.errorMessage))
    fun (errorCode, errorMessage) => ⟨errorCode, errorMessage⟩

/-! ### Types of messages -/

/-- `message_type`. -/
inductive MessageType where
  | serverInformation
  | clientTransferRequest
  | serverTransferResponse
  | transferDestinationFinished
  deriving DecidableEq

namespace MessageType

/-- The underlying value. -/
def code : MessageType → ℕ
  | serverInformation           => 0
  | clientTransferRequest       => 1
  | serverTransferResponse      => 2
  | transferDestinationFinished => 3

lemma code_lt (t : MessageType) : t.code < 2 ^ 32 := by cases t <;> decide

lemma code_injective : Function.Injective code := by
  intro t t' h
  cases t <;> cases t' <;> first | rfl | exact absurd h (by decide)

end MessageType

/-- The messages of a type. -/
def Msg : MessageType → Type
  | .serverInformation           => MessageServerInformation
  | .clientTransferRequest       => MessageClientTransferRequest
  | .serverTransferResponse      => MessageServerTransferResponse
  | .transferDestinationFinished => MessageTransferDestinationFinished

instance : (t : MessageType) → Serial (Msg t)
  | .serverInformation           => inferInstanceAs (Serial MessageServerInformation)
  | .clientTransferRequest       => inferInstanceAs (Serial MessageClientTransferRequest)
  | .serverTransferResponse      => inferInstanceAs (Serial MessageServerTransferResponse)
  | .transferDestinationFinished => inferInstanceAs (Serial MessageTransferDestinationFinished)

/-! ### Sending and receiving -/

/-- `INT32_MAX`. -/
def int32Max : ℕ := 2 ^ 31 - 1

/-- The header of a message: its type and the size of its body. -/
def header (h : Host) (t : MessageType) (binarySize : ℕ) : List UInt8 :=
  storeU32 h.endian (htonl h.endian t.code) ++ storeU32 h.endian (htonl h.endian binarySize)

/-- The bytes that `message_send` writes; `none` is `false`, for a message that is too large. -/
def messageSend (h : Host) {t : MessageType} (msg : Msg t) : Option (List UInt8) :=
  let binary := write h msg
  if int32Max < binary.length then none
  else some (header h t binary.length ++ binary)

/-- `recv` of `size` bytes from what the connection still delivers: the bytes, or `none` for
`false`, and what is left. The number of bytes that `recv` returns is an `int`. -/
def recv (size : ℕ) (stream : List UInt8) : Option (List UInt8) × List UInt8 :=
  (if size ≤ stream.length ∧ size < intBound then some (stream.take size) else none,
    stream.drop size)

/-- What `message_recv` leaves: its result, its output message and the rest of the connection. -/
structure Received (t : MessageType) where
  result : Bool
  msg : Msg t
  rest : List UInt8

/-- `message_recv`. An exception of the archive terminates the process. -/
def messageRecv (h : Host) {t : MessageType} (msg : Msg t) (stream : List UInt8) :
    Outcome Unit (Received t) :=
  match recv 8 stream with
  | (none, rest) => .ok ⟨false, msg, rest⟩
  | (some buffer, rest) =>
    let type := ntohl h.endian (loadU32 h.endian buffer)
    let binarySize := ntohl h.endian (loadU32 h.endian (buffer.drop 4))
    if type ≠ t.code then .ok ⟨false, msg, rest⟩
    else
      match recv binarySize rest with
      | (none, rest) => .ok ⟨false, msg, rest⟩
      | (some binary, rest) =>
        match read h binary with
        | some msg => .ok ⟨true, msg, rest⟩
        | none     => .aborted

end Wire

end Xcp
