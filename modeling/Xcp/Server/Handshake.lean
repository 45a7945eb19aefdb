import Xcp.ServerInformation
import Xcp.Transfer.DestinationInit
import Xcp.Transfer.SourceInit
import Xcp.Wire.Message

/-!
# From an accepted socket to a transfer

`fn_thread_unified_accepted_socket` and `client_instance::fn_portal`, up to the moment when the
transfer is initialised: the greeting, the role and the identity, the version range, the request,
the path on the server, and the constructors of the transfer. What the peer sends is a sequence of
bytes; the rest of what the code reads is the environment.
-/

namespace Xcp

open Archive Outcome Bytes ProgramOptionsDefaults

/-! ### The protocol of the portal -/

namespace PortalProtocol

def greetingMagic1 : ℕ := 0x31c1b3f6
def greetingMagic2 : ℕ := 0xe5fd020e
def rolePortal : ℕ := 0x8739e779
def roleChannel : ℕ := 0x7fbc389b
def versionInvalid : ℕ := 0
def version1 : ℕ := 1

end PortalProtocol

open PortalProtocol

namespace Wire

/-- The file that the wire describes. -/
def BasicFileInfo.toFileInfo (fi : Wire.BasicFileInfo) : Xcp.BasicFileInfo where
  relativePath := FilePath.ofBytes fi.relativePath
  fileSize := fi.fileSize.toNat
  posixPerm := fi.posixPerm.toNat
  fileSize_lt := fi.fileSize.toNat_lt

/-- The directory that the wire describes. -/
def BasicDirectoryInfo.toDirectoryInfo (di : Wire.BasicDirectoryInfo) : Xcp.BasicDirectoryInfo where
  relativePath := FilePath.ofBytes di.relativePath
  posixPerm := di.posixPerm.toNat

/-- The transfer that the wire describes. -/
def BasicTransferInfo.toTransferInfo (info : Wire.BasicTransferInfo) :
    Xcp.BasicTransferInfo info.filesInfo.length where
  sourceIsDirectory := info.sourceIsDirectory
  dirsInfo := info.dirsInfo.map (·.toDirectoryInfo)
  filesInfo n := (info.filesInfo.get n).toFileInfo

end Wire

namespace Server

/-- What the server finds when it handles a socket: whether it is being disposed, the registered
identities and whether their instances require rundown, whether its own sends succeed, the users,
and what the system answers. -/
structure Environment where
  isDisposeRequired : Bool
  clients : List UInt8 → Option Bool
  sendVersion : Bool
  sendInformation : Bool
  tryGetHomeByName : List UInt8 → Option (List UInt8)
  fs : FileSystem
  special : FilePath → SpecialType
  weaklyCanonical : FilePath → Except Unit FilePath
  createDirectories : FilePath → Except PrepareError Unit
  os : {F : ℕ} → (info : BasicTransferInfo F) → OsAnswers info
  previous : ℕ → FileImage

/-- Why a connection is closed without a response. -/
inductive Rejected where
  | greeting
  | magics
  | channelEndpoint
  | portalNotChannel
  | unknownRole
  | identity
  | disposeRequired
  | unknownIdentity
  | rundownRequired
  | versions
  | versionRange
  | sendVersion
  | negotiation
  | sendInformation
  | request
  | exception
  deriving DecidableEq

/-- A transfer that has been initialised. -/
inductive Transfer where
  | source (t : Source.Prepared)
  | destination (F N : ℕ) (s : Destination.State F N)

/-- What becomes of a socket that is not rejected. -/
inductive Handled where
  | channel
  | errorResponse (e : TransferError)
  | transfer (t : Transfer)

/-- The listening socket that accepted a connection. -/
inductive Listener where
  | portal
  | channel
  deriving DecidableEq

namespace Listener

/-- `allow_role_portal`. -/
def allowRolePortal : Listener → Bool
  | portal  => true
  | channel => false

/-- `allow_role_channel`. -/
def allowRoleChannel (o : XcpdProgramOptions) : Listener → Bool
  | portal  => o.argPortal.repeats.isSome
  | channel => true

end Listener

/-! ### Early returns -/

/-- `recv`, and a return if it fails. -/
def receive (why : Rejected) (size : ℕ) (stream : List UInt8) :
    Outcome Rejected (List UInt8 × List UInt8) :=
  match Wire.recv size stream with
  | (some buffer, rest) => .ok (buffer, rest)
  | (none, _)           => .error why

/-- A return unless the condition holds. -/
def require (why : Rejected) (p : Prop) [Decidable p] : Outcome Rejected Unit :=
  if p then .ok () else .error why

/-- An exception of the library, which ends the connection. -/
def orException {α : Type} : Outcome Unit α → Outcome Rejected α
  | .ok a    => .ok a
  | .error _ => .error .exception
  | .aborted => .aborted

@[simp] lemma orException_ok {α : Type} (a : α) : orException (.ok a) = .ok a := rfl

/-! ### The request -/

section Request

variable (env : Environment) (req : Wire.MessageClientTransferRequest)

/-- The home directory of the requested user. -/
def homePath : List UInt8 := req.user.getUserHomePath env.tryGetHomeByName

/-- A path on the server without a leading `~`. -/
def stripTilde : List UInt8 → List UInt8
  | [126]             => []
  | 126 :: 47 :: path => path
  | 126 :: 92 :: path => path
  | path              => path

/-- The path on the server: a relative one lies in the home directory of the requested user. -/
def serverPath : FilePath :=
  let path := FilePath.ofBytes req.serverPath
  if path.absolute then path
  else FilePath.ofBytes (homePath env req) / FilePath.ofBytes (stripTilde req.serverPath)

/-- The check of a relative path; a `transfer_error` stands for the response it leads to. -/
def checkServerPath : Outcome PrepareError Unit :=
  if (FilePath.ofBytes req.serverPath).absolute then .ok ()
  else
    let message :=
      "Server side path is relative, but home path for requested user " ++ req.user.toString
    if homePath env req = [] then .error (.transferError ⟨22, message ++ " is not found"⟩)
    else do
      let type ← statusType env.fs env.special (FilePath.ofBytes (homePath env req))
      if type = .directory then pure ()
      else .error (.transferError
        ⟨22, message ++ " is not found or not a directory: " ++ FilePath.text (homePath env req)⟩)

/-- The directories that are created, as the preparation sees it. -/
def createDirectories (p : FilePath) : Outcome PrepareError Unit :=
  match env.createDirectories p with
  | .ok _    => .ok ()
  | .error e => .error e

/-- The type of the destination: `status(weakly_canonical(p)).type()`. -/
def destinationType (p : FilePath) : Outcome PrepareError FileType :=
  match env.weaklyCanonical p with
  | .ok real => statusType env.fs env.special real
  | .error _ => .error .filesystemError

/-- The construction of the transfer, for `N` channels. -/
def initTransfer (N : ℕ) : Outcome PrepareError Transfer :=
  if req.isFromServerToClient then do
    assert (req.transferInfo = none)
    let t ← Source.transferSource env.fs env.special (serverPath env req)
      req.transferBlockSize.toNat (req.isRecursive ≠ 0)
    pure (.source t)
  else
    match req.transferInfo with
    | none => .aborted
    | some info => do
      let type ← destinationType env (serverPath env req)
      let s ← Destination.initTransferInfo (env.os info.toTransferInfo) (createDirectories env)
        (serverPath env req) (fun n => env.previous n) N type
      pure (.destination _ N s)

/-- The part of `fn_portal` behind the request: an error becomes a response, an exception of the
library ends the connection. -/
def respond (N : ℕ) : Outcome Rejected Handled :=
  match checkServerPath env req >>= fun _ => initTransfer env req N with
  | .ok t                      => .ok (.transfer t)
  | .error (.transferError e)  => .ok (.errorResponse e)
  | .error .filesystemError    => .error .exception
  | .aborted                   => .aborted

end Request

/-! ### The connection -/

section Connection

variable (h : Host) (env : Environment) (s : ServerPortalState)

/-- The version that `fn_portal` chooses from the range of the client. -/
def chooseVersion (minVer maxVer : ℕ) : ℕ :=
  if version1 < minVer then versionInvalid
  else if maxVer < version1 then versionInvalid
  else min version1 maxVer

/-- `client_instance::fn_portal`, up to the initialised transfer. -/
def fnPortal (stream : List UInt8) : Outcome Rejected Handled := do
  let (buffer, stream) ← receive .versions 4 stream
  let minVer := ntoh h.endian 2 (load h.endian (buffer.take 2))
  let maxVer := ntoh h.endian 2 (load h.endian (buffer.drop 2))
  require .versionRange (minVer ≤ maxVer)
  require .sendVersion (env.sendVersion = true)
  require .negotiation (chooseVersion minVer maxVer ≠ versionInvalid)
  let _ ← orException s.serverInformation
  require .sendInformation (env.sendInformation = true)
  let received ← orException (Wire.messageRecv h (t := .clientTransferRequest)
    { isFromServerToClient := false
      transferBlockSize := 0
      isRecursive := 0 : Wire.MessageClientTransferRequest } stream)
  require .request (received.result = true)
  respond env received.msg s.programOptions.totalChannelRepeatsCount

/-- `client_instance::client_instance`: the total of the channels and the two gates. -/
def clientInstance (total : ℕ) : Outcome Rejected (GateGuard × GateGuard) := do
  assert (0 < total)
  let gateAllChannelRepeatsConnected ← ({} : GateGuard).init total
  let gatePortalReadyToTransfer ← ({} : GateGuard).init 1
  pure (gateAllChannelRepeatsConnected, gatePortalReadyToTransfer)

/-- The check of the role of a greeting. -/
def checkRole (l : Listener) (role : ℕ) : Outcome Rejected Unit :=
  if role = rolePortal then require .channelEndpoint (l.allowRolePortal = true)
  else if role = roleChannel then
    require .portalNotChannel (l.allowRoleChannel s.programOptions = true)
  else .error .unknownRole

/-- The part of `fn_thread_unified_accepted_socket` behind the identity. -/
def runRole (l : Listener) (role : ℕ) (identity stream : List UInt8) :
    Outcome Rejected Handled :=
  if role = rolePortal then do
    assert (l.allowRolePortal = true)
    require .disposeRequired (env.isDisposeRequired = false)
    let _ ← clientInstance s.programOptions.totalChannelRepeatsCount
    fnPortal h env s stream
  else if role = roleChannel then do
    assert (l.allowRoleChannel s.programOptions = true)
    match env.clients identity with
    | none => .error .unknownIdentity
    | some requiredRundown =>
      require .rundownRequired (requiredRundown = false)
      pure .channel
  else .aborted

/-- `fn_thread_unified_accepted_socket`, up to the initialised transfer. -/
def fnThreadUnifiedAcceptedSocket (l : Listener) (stream : List UInt8) :
    Outcome Rejected Handled := do
  let (buffer, stream) ← receive .greeting 12 stream
  let magic1 := ntohl h.endian (loadU32 h.endian buffer)
  let magic2 := ntohl h.endian (loadU32 h.endian (buffer.drop 4))
  let role := ntohl h.endian (loadU32 h.endian (buffer.drop 8))
  require .magics (magic1 = greetingMagic1 ∧ magic2 = greetingMagic2)
  checkRole s l role
  let (identity, stream) ← receive .identity 16 stream
  runRole h env s l role identity stream

end Connection

end Server

end Xcp
