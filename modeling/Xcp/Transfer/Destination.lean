import Mathlib
import Xcp.Infra.GateGuard
import Xcp.Library.FileTree
import Xcp.Library.Machine
import Xcp.Transfer.Header
import Xcp.Transfer.RecvFile

/-!
# The receiving transfer

`transfer_destination` as a machine. Its threads are the channels, each running `invoke_channel`,
and the thread that runs `dispose_impl`. What the sockets deliver is part of the actions, so the
machine covers every peer. A step is one access to what the threads share; `load` is the second
read of `dst_file_mapped`, in the argument of the body's `recv`.
-/

namespace Xcp

open Outcome Bytes

namespace Destination

/-- Where a channel is in `invoke_channel`. -/
inductive Pc (F : ℕ) where
  | header
  | check (h : DecodedHeader)
  | load (offset blockSize : ℕ) (nFile : Fin F)
  | body (offset blockSize : ℕ) (nFile : Fin F) (ptr : Option ℕ)
  | count (blockSize : ℕ) (nFile : Fin F)
  | unmap (blockSize : ℕ) (nFile : Fin F)
  | close (blockSize : ℕ) (nFile : Fin F)
  | report (blockSize : ℕ)
  | exit (result : Bool)
  | setEvent (result : Bool)
  | returned (result : Bool)
  deriving DecidableEq

/-- Where the disposing thread is in `dispose_impl`; `idle` is before `dispose`. -/
inductive Disposer where
  | idle
  | closeHandle (nFile : ℕ)
  | unmapFile (nFile : ℕ)
  | setEvent
  | done
  deriving DecidableEq

/-- `transfer_destination` with `F` files after `init_transfer_info`, and its threads. `content` is
what the files contain, `received` are the blocks that each channel has written, `syscalls` what
has been obtained and released, and `aborted` tells that an `ASSERT` has failed. -/
structure State (F N : ℕ) where
  filesInfo : Fin F → BasicFileInfo
  recvCtx : Fin F → RecvFileContext
  gateAllChannelsFinished : GateGuard
  totalSize : ℕ
  transferredSize : ℕ := 0
  chan : Fin N → Pc F := fun _ => .header
  disposer : Disposer := .idle
  content : Fin F → FileImage
  received : Fin N → List (Block F) := fun _ => []
  syscalls : List Syscall
  aborted : Bool := false

/-- What a thread does: `recv` returns `true` and delivers all it was asked for, or `false` after
delivering less; the rest of a channel's steps and those of `dispose` need no answer. -/
inductive Action (N : ℕ) where
  | recv (c : Fin N) (bytes : List UInt8)
  | recvFailed (c : Fin N) (bytes : List UInt8)
  | run (c : Fin N)
  | dispose
  deriving DecidableEq

/-- The channel that moves. -/
def Action.actor {N : ℕ} : Action N → Option (Fin N)
  | .recv c _ | .recvFailed c _ | .run c => some c
  | .dispose => none

variable {F N : ℕ}

/-! ### Initialisation -/

section Init

variable {info : BasicTransferInfo F} (os : OsAnswers info)
  (createDirectories : FilePath → Outcome PrepareError Unit) (requestedDstPath : FilePath)
  (previous : Fin F → FileImage)

/-- The files of a transfer, opened one after the other. -/
def openFiles (filePath : Fin F → FilePath) : Outcome PrepareError (Fin F → OpenedFile) :=
  forFin fun n => internalOpenRegularFile os (filePath n).toString n (previous n)

/-- `prepare_transfer_regular_file`. -/
def prepareTransferRegularFile : Outcome PrepareError (Fin F → OpenedFile) := do
  assert (F = 1)
  openFiles os previous fun _ => requestedDstPath

/-- `prepare_transfer_directory`. -/
def prepareTransferDirectory : Outcome PrepareError (Fin F → OpenedFile) := do
  info.dirsInfo.forM fun di => createDirectories (requestedDstPath / di.relativePath)
  openFiles os previous fun n => requestedDstPath / (info.filesInfo n).relativePath

/-- The preparation that `init_transfer_info` chooses by the type of the destination path. -/
def prepareTransfer (status : FileType) : Outcome PrepareError (Fin F → OpenedFile) :=
  let unsupported (message : String) := .error (.transferError ⟨38, message ++ requestedDstPath.toString⟩)
  match status with
  | .regular =>
    if info.sourceIsDirectory then unsupported "Transfer source directory to a file: "
    else prepareTransferRegularFile os requestedDstPath previous
  | .directory =>
    if info.sourceIsDirectory then
      prepareTransferDirectory os createDirectories requestedDstPath previous
    else prepareTransferRegularFile os requestedDstPath previous
  | .notFound =>
    if info.sourceIsDirectory then do
      createDirectories requestedDstPath
      prepareTransferDirectory os createDirectories requestedDstPath previous
    else prepareTransferRegularFile os requestedDstPath previous
  | .block     => unsupported "Transfer to a block device is not supported: "
  | .character => unsupported "Transfer to a character device is not supported: "
  | .fifo      => unsupported "Transfer to a FIFO file is not supported: "
  | .socket    => unsupported "Transfer to a socket file is not supported: "
  | .unknown   => unsupported "Unknown file type: "

/-- `init_transfer_info`, for a gate of `N` channels. -/
def initTransferInfo (N : ℕ) (status : FileType) : Outcome PrepareError (State F N) := do
  assert (0 < N)
  let gate ← ({} : GateGuard).init N
  let files ← prepareTransfer os createDirectories requestedDstPath previous status
  pure
    { filesInfo := info.filesInfo
      recvCtx := fun n => (files n).ctx
      gateAllChannelsFinished := gate
      totalSize := toU64 ((List.ofFn info.fileSize).sum)
      content := fun n => (files n).content
      syscalls := (List.ofFn fun n => (files n).syscalls).flatten }

end Init

/-! ### Steps -/

namespace State

variable (s : State F N)

def setPc (c : Fin N) (pc : Pc F) : State F N := { s with chan := Function.update s.chan c pc }

def setCtx (n : Fin F) (ctx : RecvFileContext) : State F N :=
  { s with recvCtx := Function.update s.recvCtx n ctx }

def setGate (gate : GateGuard) : State F N := { s with gateAllChannelsFinished := gate }

def setDisposer (d : Disposer) : State F N := { s with disposer := d }

/-- `_transferred_size += block_size`. -/
def addTransferred (blockSize : ℕ) : State F N :=
  { s with transferredSize := toU64 (s.transferredSize + blockSize) }

/-- `close_handle` on the context of file `n`. -/
def closeHandle (n : Fin F) : State F N :=
  { s.setCtx n (s.recvCtx n).closeHandle.1 with
    syscalls := s.syscalls ++ (s.recvCtx n).closeHandle.2 }

/-- `unmap_file` on the context of file `n`. -/
def unmapFile (n : Fin F) : State F N :=
  { s.setCtx n (s.recvCtx n).unmapFile.1 with
    syscalls := s.syscalls ++ (s.recvCtx n).unmapFile.2 }

/-- Store bytes at an address: they show in a file whose mapping contains the address. -/
def store (addr : ℕ) (bytes : List UInt8) : State F N :=
  { s with content := fun n =>
      match (s.recvCtx n).dstFileMapped with
      | some base => (s.content n).store base (s.recvCtx n).mappedLength addr bytes
      | none      => s.content n }

/-- The channel has written the block. -/
def addReceived (c : Fin N) (b : Block F) : State F N :=
  { s with received := Function.update s.received c (s.received c ++ [b]) }

def abort : State F N := { s with aborted := true }

/-- `is_dispose_required`. -/
def isDisposeRequired : Bool := s.disposer ≠ .idle

/-- The checks of `invoke_channel` on a decoded header. -/
def checkHeader (c : Fin N) (h : DecodedHeader) : State F N :=
  if h.blockSize = 0 then
    if h.offset = 2 ^ 64 - 1 ∧ h.nFile = 2 ^ 32 - 1 then s.setPc c (.exit true) else s.abort
  else if hn : h.nFile < F then
    match (s.recvCtx ⟨h.nFile, hn⟩).dstFileMapped with
    | some _ => s.setPc c (.load h.offset h.blockSize ⟨h.nFile, hn⟩)
    | none   => if s.isDisposeRequired then s.setPc c (.exit false) else s.abort
  else s.abort

/-- `ctx.received_size += block_size`, with the check and the branch on the result. -/
def countReceived (c : Fin N) (blockSize : ℕ) (n : Fin F) : State F N :=
  let fileSize := (s.filesInfo n).fileSize
  let currReceivedSize := toU64 ((s.recvCtx n).receivedSize + blockSize)
  let s := s.setCtx n { s.recvCtx n with receivedSize := currReceivedSize }
  if currReceivedSize ≤ fileSize then
    if currReceivedSize = fileSize then s.setPc c (.unmap blockSize n)
    else s.setPc c (.report blockSize)
  else s.abort

/-- The first half of `_gate_all_channels_finished.signal()`, on every way out. -/
def signal (c : Fin N) (result : Bool) : State F N :=
  if s.gateAllChannelsFinished.initialized then
    let gate := s.gateAllChannelsFinished.increment
    (s.setGate gate).setPc c (if gate.reached then .setEvent result else .returned result)
  else s.abort

/-- A step of a channel without `recv`. -/
def runChannel (c : Fin N) : Option (State F N) :=
  match s.chan c with
  | .check h => some (s.checkHeader c h)
  | .load offset blockSize n =>
    some (s.setPc c (.body offset blockSize n (s.recvCtx n).dstFileMapped))
  | .count blockSize n => some (s.countReceived c blockSize n)
  | .unmap blockSize n => some ((s.unmapFile n).setPc c (.close blockSize n))
  | .close blockSize n => some ((s.closeHandle n).setPc c (.report blockSize))
  | .report blockSize => some ((s.addTransferred blockSize).setPc c .header)
  | .exit result => some (s.signal c result)
  | .setEvent result =>
    some ((s.setGate s.gateAllChannelsFinished.set).setPc c (.returned result))
  | .header | .body _ _ _ _ | .returned _ => none

/-- `recv` returns `true`. -/
def recv (e : Endian) (c : Fin N) (bytes : List UInt8) : Option (State F N) :=
  match s.chan c with
  | .header =>
    if bytes.length = 16 then some (s.setPc c (.check (decodeHeader e bytes))) else none
  | .body offset blockSize n ptr =>
    if bytes.length = blockSize then
      some (((s.store (toU64 (ptr.getD 0 + offset)) bytes).addReceived c ⟨n, offset, bytes⟩).setPc c
        (.count blockSize n))
    else none
  | _ => none

/-- `recv` returns `false`. -/
def recvFailed (c : Fin N) (bytes : List UInt8) : Option (State F N) :=
  match s.chan c with
  | .header => if bytes.length < 16 then some (s.setPc c (.exit false)) else none
  | .body offset blockSize _ ptr =>
    if bytes.length < blockSize then
      some ((s.store (toU64 (ptr.getD 0 + offset)) bytes).setPc c (.exit false))
    else none
  | _ => none

/-- A step of `dispose_impl`. -/
def disposeStep : Option (State F N) :=
  match s.disposer with
  | .idle => some (s.setDisposer (.closeHandle 0))
  | .closeHandle n =>
    if hn : n < F then some ((s.closeHandle ⟨n, hn⟩).setDisposer (.unmapFile n))
    else if s.gateAllChannelsFinished.initialized then
      some ((s.setGate s.gateAllChannelsFinished.force).setDisposer .setEvent)
    else some (s.setDisposer .done)
  | .unmapFile n =>
    if hn : n < F then some ((s.unmapFile ⟨n, hn⟩).setDisposer (.closeHandle (n + 1))) else none
  | .setEvent => some ((s.setGate s.gateAllChannelsFinished.set).setDisposer .done)
  | .done => none

/-- A step of the transfer, on a host of byte order `e`. -/
def step (e : Endian) : Action N → Option (State F N)
  | .recv c bytes       => if s.aborted then none else s.recv e c bytes
  | .recvFailed c bytes => if s.aborted then none else s.recvFailed c bytes
  | .run c              => if s.aborted then none else s.runChannel c
  | .dispose            => if s.aborted then none else s.disposeStep

end State

/-- The machine of a transfer that has been initialised; the number of channels is a `size_t`. -/
def machine {info : BasicTransferInfo F} (os : OsAnswers info) (N : ℕ) (e : Endian) :
    Machine (State F N) (Action N) where
  init s := N < 2 ^ 64 ∧ ∃ createDirectories requestedDstPath previous status,
    initTransferInfo os createDirectories requestedDstPath previous N status = ok s
  step s a := s.step e a

@[simp] lemma machine_step {info : BasicTransferInfo F} (os : OsAnswers info) (e : Endian)
    (s : State F N) (a : Action N) : (machine os N e).step s a = s.step e a := rfl

end Destination

end Xcp
