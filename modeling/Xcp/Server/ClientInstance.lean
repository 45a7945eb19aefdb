import Mathlib
import Xcp.Infra.GateGuard
import Xcp.Library.Machine

/-!
# One client on the server

`client_instance` as a machine. Its threads are the portal thread in `fn_portal`, one thread for
every channel connection, from the lookup of the instance through the rundown protection to
`fn_channel`, and the thread that runs `dispose_impl`. A step is one access to what the threads
share: the two pointers that `dispose_impl` resets, the gates, the locks of the rundown protection,
and `_status`. Sockets and files answer as they like, except that nothing is received or sent on a
socket that has been disposed.
-/

namespace Xcp

namespace ClientInstance

/-- The operations of `fn_portal` on `accepted_portal_socket`. -/
inductive SocketOp where
  | recvVersion
  | sendVersion
  | sendInformation
  | recvRequest
  | sendResponse
  | sendErrorResponse
  deriving DecidableEq

/-- The two kinds of transfer. -/
inductive TransferKind where
  | source
  | destination
  deriving DecidableEq

/-- Where the portal thread is: `use` is before the member is dereferenced for an operation and
`inside` is in it; `created` is behind the assignment of `transfer` and before its first use, and
`exchange` is the operation on the socket in `invoke_portal`. -/
inductive PortalPc where
  | use (op : SocketOp)
  | inside (op : SocketOp)
  | create
  | created
  | waitAll
  | check
  | signalReady
  | setReady
  | invoke
  | waitFinished
  | exchange
  | exit
  | done
  deriving DecidableEq

/-- Where the thread of a channel is: `connecting` until it has received greeting and identity and
looked up the instance, then in `acquire_unique` and the insertion into `channel_threads`, then in
`fn_channel`. It ends as `lost` if greeting or identity cannot be received. -/
inductive ChannelPc where
  | absent
  | connecting
  | acquire
  | holdsSerial
  | holdsMutex
  | signalAll
  | setAll
  | waitReady
  | check
  | assertTransfer
  | invoke
  | transferring (kind : TransferKind)
  | signalFinished (result : Bool)
  | setFinished (result : Bool)
  | exit (result : Bool)
  | done
  | rejected
  | lost
  deriving DecidableEq

/-- Where the disposing thread is in `dispose_impl`: `idle` is `STATUS_NORMAL` and `done` is
`STATUS_DISPOSED`; the lists are the channels that are still to be disposed and joined. -/
inductive DisposerPc where
  | idle
  | disposeSocket
  | resetSocket
  | forceAll
  | setAll
  | forceReady
  | setReady
  | ifTransfer
  | disposeTransfer
  | setFinished
  | resetTransfer
  | joinPortal
  | lockSerial
  | lockMutex
  | disposeChannel (rest : List ℕ)
  | joinChannel (c : ℕ) (rest : List ℕ)
  | remove
  | done
  deriving DecidableEq

/-- The owner of a lock of the rundown protection. -/
inductive Owner where
  | channel (c : ℕ)
  | disposer
  deriving DecidableEq

/-- A null pointer that has been used, which ends the process. -/
inductive Fault where
  | nullSocket
  | nullTransfer
  deriving DecidableEq

/-- `client_instance` and its threads. `socket` and `transfer` tell what the two members hold; the
gate of a destination is kept beside it. `opened` are the channel connections, and `added` the
channels that were ever put into `channel_threads`, whose sockets have been disposed `disposals`
times and whose threads have been joined `joins` times. -/
structure State where
  portal : PortalPc := .use .recvVersion
  chan : ℕ → ChannelPc := fun _ => .absent
  disposer : DisposerPc := .idle
  socket : Bool := true
  socketOpen : Bool := true
  transfer : Option TransferKind := none
  gateAllChannelRepeatsConnected : GateGuard
  gatePortalReadyToTransfer : GateGuard
  gateAllChannelsFinished : GateGuard := {}
  serial : Option Owner := none
  mutex : Option Owner := none
  requiredRundown : Bool := false
  channelThreads : List ℕ := []
  chanOpen : ℕ → Bool := fun _ => true
  opened : Finset ℕ := ∅
  added : List ℕ := []
  disposals : ℕ → ℕ := fun _ => 0
  joins : ℕ → ℕ := fun _ => 0
  informationSent : Bool := false
  requestSent : Bool := false
  peerClosed : Bool := false
  fault : Option Fault := none

/-- How the construction of a transfer ends: with the pointer assigned, with a `transfer_error`, or
with another exception. -/
inductive Creation where
  | created (kind : TransferKind)
  | transferError
  | exception
  deriving DecidableEq

/-- How the first use of a new transfer ends. -/
inductive Initialised where
  | ok
  | transferError
  | exception
  deriving DecidableEq

/-- What can happen: a step of a thread, with the answer of the system where there is one, a call of
`dispose` from outside, and what the client does: it opens a channel, completes its request, and
closes all its connections. `loseChannel` is the failing receipt of a greeting or an identity. -/
inductive Action where
  | portal
  | portalOp (ok : Bool)
  | create (r : Creation)
  | initialise (r : Initialised)
  | channel (c : ℕ)
  | loseChannel (c : ℕ)
  | transferred (c : ℕ) (result : Bool)
  | startDispose
  | dispose
  | openChannel (c : ℕ)
  | sendRequest
  | close
  deriving DecidableEq

/-- Where the portal thread goes behind an operation that succeeds. -/
def SocketOp.next : SocketOp → PortalPc
  | recvVersion       => .use .sendVersion
  | sendVersion       => .use .sendInformation
  | sendInformation   => .use .recvRequest
  | recvRequest       => .create
  | sendResponse      => .signalReady
  | sendErrorResponse => .exit

namespace State

variable (n : ℕ) (s : State)

def setPortal (pc : PortalPc) : State := { s with portal := pc }

def setChan (c : ℕ) (pc : ChannelPc) : State := { s with chan := Function.update s.chan c pc }

def setDisposer (d : DisposerPc) : State := { s with disposer := d }

def crash (f : Fault) : State := { s with fault := some f }

/-- `is_dispose_required`. -/
def isDisposeRequired : Bool := s.disposer ≠ .idle

/-- `async_dispose(false)`, and the start of `dispose`. -/
def startDispose : State := if s.disposer = .idle then s.setDisposer .disposeSocket else s

/-- A step of `fn_portal` that needs no answer. -/
def portalStep : Option State :=
  match s.portal with
  | .use op =>
    if s.socket then
      some ({ s with
        informationSent := s.informationSent || decide (op = SocketOp.sendInformation) }.setPortal
          (.inside op))
    else some (s.crash .nullSocket)
  | .waitAll =>
    if s.gateAllChannelRepeatsConnected.isSet then some (s.setPortal .check) else none
  | .check =>
    some (s.setPortal (if s.isDisposeRequired then .exit else .use .sendResponse))
  | .signalReady =>
    let gate := s.gatePortalReadyToTransfer.increment
    some ({ s with gatePortalReadyToTransfer := gate }.setPortal
      (if gate.reached then .setReady else .invoke))
  | .setReady =>
    some ({ s with
      gatePortalReadyToTransfer := s.gatePortalReadyToTransfer.set }.setPortal .invoke)
  | .invoke =>
    match s.transfer with
    | none => some (s.crash .nullTransfer)
    | some kind =>
      if s.socket then
        some (s.setPortal (if kind = .destination then .waitFinished else .exchange))
      else some (s.crash .nullSocket)
  | .waitFinished =>
    if s.gateAllChannelsFinished.isSet then some (s.setPortal .exchange) else none
  | .exit => some (s.startDispose.setPortal .done)
  | .inside _ | .create | .created | .exchange | .done => none

/-- An operation on the portal socket ends. What is received may be refused, which is a failure
here; the request is received only if the client has completed it. -/
def portalOp (ok : Bool) : Option State :=
  match s.portal with
  | .inside op =>
    if ok then
      if s.socketOpen ∧ (op = .recvRequest → s.requestSent) then some (s.setPortal op.next)
      else none
    else some (s.setPortal .exit)
  | .exchange => if ok ∧ ¬ s.socketOpen then none else some (s.setPortal .exit)
  | _ => none

/-- `make_shared` of the transfer, and the assignment to `transfer`. -/
def create (r : Creation) : Option State :=
  match s.portal, r with
  | .create, .created kind  => some ({ s with transfer := some kind }.setPortal .created)
  | .create, .transferError => some (s.setPortal (.use .sendErrorResponse))
  | .create, .exception     => some (s.setPortal .exit)
  | _, _ => none

/-- `get_transfer_info` or `init_transfer_info` through the member; the latter sets up the gate of a
destination first. -/
def initialise (r : Initialised) : Option State :=
  match s.portal with
  | .created =>
    match s.transfer with
    | none => some (s.crash .nullTransfer)
    | some .source => if r = .ok then some (s.setPortal .waitAll) else none
    | some .destination =>
      some ({ s with gateAllChannelsFinished := { atLeastSignal := n } }.setPortal
        (match r with
          | .ok            => .waitAll
          | .transferError => .use .sendErrorResponse
          | .exception     => .exit))
  | _ => none

/-- A step of a channel's thread that needs no answer. -/
def channelStep (c : ℕ) : Option State :=
  match s.chan c with
  | .connecting => some (s.setChan c .acquire)
  | .acquire =>
    if s.serial = none then
      some ({ s with serial := some (.channel c) }.setChan c .holdsSerial)
    else none
  | .holdsSerial =>
    if s.requiredRundown then some ({ s with serial := none }.setChan c .rejected)
    else if s.mutex = none then
      some ({ s with
        serial := none
        mutex := some (.channel c) }.setChan c .holdsMutex)
    else none
  | .holdsMutex =>
    some ({ s with
      mutex := none
      channelThreads := s.channelThreads ++ [c]
      added := s.added ++ [c] }.setChan c .signalAll)
  | .signalAll =>
    let gate := s.gateAllChannelRepeatsConnected.increment
    some ({ s with gateAllChannelRepeatsConnected := gate }.setChan c
      (if gate.reached then .setAll else .waitReady))
  | .setAll =>
    some ({ s with gateAllChannelRepeatsConnected := s.gateAllChannelRepeatsConnected.set }.setChan
      c .waitReady)
  | .waitReady => if s.gatePortalReadyToTransfer.isSet then some (s.setChan c .check) else none
  | .check =>
    some (s.setChan c (if s.isDisposeRequired then .exit false else .assertTransfer))
  | .assertTransfer =>
    match s.transfer with
    | none   => some (s.crash .nullTransfer)
    | some _ => some (s.setChan c .invoke)
  | .invoke =>
    match s.transfer with
    | none      => some (s.crash .nullTransfer)
    | some kind => some (s.setChan c (.transferring kind))
  | .signalFinished result =>
    let gate := s.gateAllChannelsFinished.increment
    some ({ s with gateAllChannelsFinished := gate }.setChan c
      (if gate.reached then .setFinished result else .exit result))
  | .setFinished result =>
    some ({ s with gateAllChannelsFinished := s.gateAllChannelsFinished.set }.setChan c
      (.exit result))
  | .exit result => some ((if result then s else s.startDispose).setChan c .done)
  | .absent | .transferring _ | .done | .rejected | .lost => none

/-- `recv` of the greeting or the identity fails. -/
def loseChannel (c : ℕ) : Option State :=
  match s.chan c with
  | .connecting => some (s.setChan c .lost)
  | _ => none

/-- The loop of `invoke_channel` ends; the gate of a destination is signalled on every way out. -/
def transferred (c : ℕ) (result : Bool) : Option State :=
  match s.chan c with
  | .transferring kind =>
    if result ∧ ¬ s.chanOpen c then none
    else some (s.setChan c
      (if kind = .destination then .signalFinished result else .exit result))
  | _ => none

/-- A step of `dispose_impl`. -/
def disposeStep : Option State :=
  match s.disposer with
  | .idle => none
  | .disposeSocket => some ({ s with socketOpen := false }.setDisposer .resetSocket)
  | .resetSocket => some ({ s with socket := false }.setDisposer .forceAll)
  | .forceAll =>
    some ({ s with
      gateAllChannelRepeatsConnected := s.gateAllChannelRepeatsConnected.force }.setDisposer .setAll)
  | .setAll =>
    some ({ s with
      gateAllChannelRepeatsConnected := s.gateAllChannelRepeatsConnected.set }.setDisposer
        .forceReady)
  | .forceReady =>
    some ({ s with
      gatePortalReadyToTransfer := s.gatePortalReadyToTransfer.force }.setDisposer .setReady)
  | .setReady =>
    some ({ s with
      gatePortalReadyToTransfer := s.gatePortalReadyToTransfer.set }.setDisposer .ifTransfer)
  | .ifTransfer =>
    some (s.setDisposer (if s.transfer.isSome then .disposeTransfer else .joinPortal))
  | .disposeTransfer =>
    if s.transfer = some .destination ∧ s.gateAllChannelsFinished.initialized then
      some ({ s with
        gateAllChannelsFinished := s.gateAllChannelsFinished.force }.setDisposer .setFinished)
    else some (s.setDisposer .resetTransfer)
  | .setFinished =>
    some ({ s with
      gateAllChannelsFinished := s.gateAllChannelsFinished.set }.setDisposer .resetTransfer)
  | .resetTransfer => some ({ s with transfer := none }.setDisposer .joinPortal)
  | .joinPortal => if s.portal = .done then some (s.setDisposer .lockSerial) else none
  | .lockSerial =>
    if s.serial = none then
      some ({ s with
        serial := some .disposer
        requiredRundown := true }.setDisposer .lockMutex)
    else none
  | .lockMutex =>
    if s.mutex = none then
      some ({ s with
        serial := none
        mutex := some .disposer }.setDisposer (.disposeChannel s.channelThreads))
    else none
  | .disposeChannel (c :: rest) =>
    some ({ s with
      chanOpen := Function.update s.chanOpen c false
      disposals := Function.update s.disposals c (s.disposals c + 1) }.setDisposer
        (.joinChannel c rest))
  | .disposeChannel [] =>
    some ({ s with
      channelThreads := []
      mutex := none }.setDisposer .remove)
  | .joinChannel c rest =>
    if s.chan c = .done then
      some ({ s with joins := Function.update s.joins c (s.joins c + 1) }.setDisposer
        (.disposeChannel rest))
    else none
  | .remove => some (s.setDisposer .done)
  | .done => none

/-- A step of the client. -/
def clientStep : Action → Option State
  | .openChannel c =>
    if s.peerClosed = false ∧ s.chan c = .absent then
      some ({ s with opened := insert c s.opened }.setChan c .connecting)
    else none
  | .sendRequest => if s.peerClosed then none else some { s with requestSent := true }
  | .close => some { s with peerClosed := true }
  | _ => none

/-- A step of the instance or its client, for `n` channels. -/
def step (a : Action) : Option State :=
  if s.fault ≠ none then none
  else
    match a with
    | .portal               => s.portalStep
    | .portalOp ok          => s.portalOp ok
    | .create r             => s.create r
    | .initialise r         => s.initialise n r
    | .channel c            => s.channelStep c
    | .loseChannel c        => s.loseChannel c
    | .transferred c result => s.transferred c result
    | .startDispose         => if s.disposer = .idle then some s.startDispose else none
    | .dispose              => s.disposeStep
    | .openChannel _ | .sendRequest | .close => s.clientStep a

end State

/-- An instance that has just been inserted, for `n` channels. -/
def start (n : ℕ) : State where
  gateAllChannelRepeatsConnected := { atLeastSignal := n }
  gatePortalReadyToTransfer := { atLeastSignal := 1 }

/-- The machine of an instance with `n` channels; the number is positive, as its constructor
checks. -/
def machine (n : ℕ) : Machine State Action where
  init s := 0 < n ∧ n < invalidSignalCount ∧ s = start n
  step s a := s.step n a

end ClientInstance

end Xcp
