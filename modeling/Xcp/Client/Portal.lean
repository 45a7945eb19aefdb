import Mathlib
import Xcp.Infra.GateGuard
import Xcp.Library.Machine

/-!
# The client

`client_portal_state` as a machine. Its threads are the main thread, which initialises it, waits for
the exit request, calls `dispose` and reads the result; the portal thread in `fn_thread_work`; one
thread for every channel; and the thread that runs `dispose_impl`. A step is one access to what the
threads share. Sockets and files answer as they like, except that nothing is received or sent on a
socket that has been disposed.
-/

namespace Xcp

namespace ClientPortal

/-- The operations of `fn_thread_work` on `sock`. -/
inductive SocketOp where
  | recvVersion
  | recvInformation
  | sendRequest
  | recvResponse
  deriving DecidableEq

/-- Where the main thread is: in `init`, waiting for the exit request, before and in `dispose`, about
to read the result, and behind it. -/
inductive MainPc where
  | init
  | waitExit
  | dispose
  | waitDispose
  | read
  | done
  deriving DecidableEq

/-- Where the portal thread is: `use` is before the member is dereferenced for an operation and
`inside` is in it; `creating k` has added `k` channels, `adding k` has started channel `k`, and
`refused` and `joining` dispose it because the rundown has begun. -/
inductive PortalPc where
  | absent
  | use (op : SocketOp)
  | inside (op : SocketOp)
  | creating (k : ℕ)
  | adding (k : ℕ)
  | refused (k : ℕ)
  | joining (k : ℕ)
  | buildRequest
  | initInfo
  | setCallback
  | signalReady
  | setReady
  | assertTransfer
  | invoke
  | waitFinished
  | exchange
  | storeStatus (result : Bool)
  | exit
  | requireExit
  | done
  deriving DecidableEq

/-- Where the thread of a channel is. -/
inductive ChannelPc where
  | absent
  | connecting
  | waitReady
  | check
  | assertTransfer
  | invoke
  | transferring
  | signalFinished (result : Bool)
  | setFinished (result : Bool)
  | storeStatus (result : Bool)
  | exit (success : Bool)
  | done
  deriving DecidableEq

/-- Where the disposing thread is in `dispose_impl`: `idle` is `STATUS_NORMAL` and `done` is
`STATUS_DISPOSED`; the lists are the channels that are still to be disposed and joined. -/
inductive DisposerPc where
  | idle
  | disposeSocket
  | resetSocket
  | ifTransfer
  | disposeTransfer
  | setFinished
  | resetTransfer
  | forceReady
  | setReady
  | joinPortal
  | acquireRundown
  | disposeChannel (rest : List ℕ)
  | joinChannel (c : ℕ) (rest : List ℕ)
  | done
  deriving DecidableEq

/-- `transfer_result_status`. -/
inductive Status where
  | unknown
  | failed
  | succeeded
  deriving DecidableEq

/-- What ends the process: a null pointer that is used, or a failing assertion on a number. -/
inductive Fault where
  | nullSocket
  | nullTransfer
  | signalCount
  deriving DecidableEq

/-- `client_portal_state` and its threads. `socket` and `transfer` tell whether the two members hold
an object; the gate of a destination is kept beside it. `total` are the channels that the server has
announced; the results are those of `invoke_portal` and `invoke_channel`, and `read` is what the main
thread has read in the end. -/
structure State where
  main : MainPc := .init
  portal : PortalPc := .absent
  chan : ℕ → ChannelPc := fun _ => .absent
  disposer : DisposerPc := .idle
  socket : Bool := false
  socketOpen : Bool := true
  transfer : Bool := false
  gateClientPortalReady : GateGuard := { atLeastSignal := 1 }
  gateAllChannelsFinished : GateGuard := {}
  requiredRundown : Bool := false
  channels : List ℕ := []
  chanOpen : ℕ → Bool := fun _ => true
  total : ℕ := 0
  transferResultStatus : Status := .unknown
  exitRequired : Bool := false
  portalResult : Option Bool := none
  channelResult : ℕ → Option Bool := fun _ => none
  read : Option Status := none
  fault : Option Fault := none

/-- How `init` ends: without a transfer, without a connection, or with a running portal thread. -/
inductive Initialised where
  | transferError
  | notConnected
  | connected
  deriving DecidableEq

/-- What can happen: a step of a thread, with the answer of the system or of the server where there
is one, and a signal to the process. -/
inductive Action where
  | init (r : Initialised)
  | main
  | signal
  | portal
  | information (total : ℕ)
  | portalOp (ok : Bool)
  | initInfo (ok : Bool)
  | channel (c : ℕ)
  | connected (c : ℕ) (ok : Bool)
  | transferred (c : ℕ) (result : Bool)
  | dispose
  deriving DecidableEq

namespace State

variable (isFromServerToClient : Bool) (s : State)

def setMain (pc : MainPc) : State := { s with main := pc }

def setPortal (pc : PortalPc) : State := { s with portal := pc }

def setChan (c : ℕ) (pc : ChannelPc) : State := { s with chan := Function.update s.chan c pc }

def setDisposer (d : DisposerPc) : State := { s with disposer := d }

def crash (f : Fault) : State := { s with fault := some f }

/-- `is_dispose_required`. -/
def isDisposeRequired : Bool := s.disposer ≠ .idle

/-- `async_dispose(false)`, and the start of `dispose`. -/
def startDispose : State := if s.disposer = .idle then s.setDisposer .disposeSocket else s

/-- `init` on the main thread. -/
def init (r : Initialised) : Option State :=
  if s.main = .init then
    match r with
    | .transferError => some (s.setMain .dispose)
    | .notConnected  => some ({ s with transfer := true }.setMain .dispose)
    | .connected     =>
      some ({ s with
        transfer := true
        socket := true
        portal := .use .recvVersion }.setMain .waitExit)
  else none

/-- A step of the main thread behind `init`. -/
def mainStep : Option State :=
  match s.main with
  | .waitExit    => if s.exitRequired then some (s.setMain .dispose) else none
  | .dispose     => some (s.startDispose.setMain .waitDispose)
  | .waitDispose => if s.disposer = .done then some (s.setMain .read) else none
  | .read        => some ({ s with read := some s.transferResultStatus }.setMain .done)
  | .init | .done => none

/-- A step of `fn_thread_work` of the portal that needs no answer. -/
def portalStep : Option State :=
  match s.portal with
  | .use op =>
    if s.socket then some (s.setPortal (.inside op)) else some (s.crash .nullSocket)
  | .creating k =>
    if k < s.total then some ((s.setChan k .connecting).setPortal (.adding k))
    else some (s.setPortal (if isFromServerToClient then .use .sendRequest else .buildRequest))
  | .adding k =>
    if s.requiredRundown then some (s.setPortal (.refused k))
    else some ({ s with channels := s.channels ++ [k] }.setPortal (.creating (k + 1)))
  | .refused k =>
    some ({ s with chanOpen := Function.update s.chanOpen k false }.setPortal (.joining k))
  | .joining k => if s.chan k = .done then some (s.setPortal .exit) else none
  | .buildRequest =>
    if s.transfer then some (s.setPortal (.use .sendRequest)) else some (s.crash .nullTransfer)
  | .setCallback =>
    if s.transfer then some (s.setPortal .signalReady) else some (s.crash .nullTransfer)
  | .signalReady =>
    let gate := s.gateClientPortalReady.increment
    some ({ s with gateClientPortalReady := gate }.setPortal
      (if gate.reached then .setReady else .assertTransfer))
  | .setReady =>
    some ({ s with
      gateClientPortalReady := s.gateClientPortalReady.set }.setPortal .assertTransfer)
  | .assertTransfer =>
    if s.transfer then some (s.setPortal .invoke) else some (s.crash .nullTransfer)
  | .invoke =>
    if s.transfer then
      if s.socket then
        some (s.setPortal (if isFromServerToClient then .waitFinished else .exchange))
      else some (s.crash .nullSocket)
    else some (s.crash .nullTransfer)
  | .waitFinished =>
    if s.gateAllChannelsFinished.isSet then some (s.setPortal .exchange) else none
  | .storeStatus result =>
    let status := if result then
        (if s.transferResultStatus = .unknown then .succeeded else s.transferResultStatus)
      else .failed
    some ({ s with transferResultStatus := status }.setPortal .exit)
  | .exit => some (s.startDispose.setPortal .requireExit)
  | .requireExit => some ({ s with exitRequired := true }.setPortal .done)
  | .absent | .inside _ | .initInfo | .exchange | .done => none

/-- The information of the server is received; every channel is an object in memory, so their
number is a `size_t`. -/
def information (total : ℕ) : Option State :=
  if s.portal = .inside .recvInformation ∧ s.socketOpen ∧ total < 2 ^ 64 then
    some ({ s with total := total }.setPortal (.creating 0))
  else none

/-- An operation on the portal's socket ends, other than the receipt of the information. What is
received may be an error, which is a failure here. -/
def portalOp (ok : Bool) : Option State :=
  match s.portal with
  | .inside op =>
    if ok then
      if s.socketOpen then
        match op with
        | .recvVersion     => some (s.setPortal (.use .recvInformation))
        | .recvInformation => none
        | .sendRequest     => some (s.setPortal (.use .recvResponse))
        | .recvResponse    =>
          some (s.setPortal (if isFromServerToClient then .initInfo else .setCallback))
      else none
    else some (s.setPortal .exit)
  | .exchange =>
    if ok ∧ ¬ s.socketOpen then none
    else some ({ s with portalResult := some ok }.setPortal (.storeStatus ok))
  | _ => none

/-- `init_transfer_info`, which sets up the gate first. -/
def initInfo (ok : Bool) : Option State :=
  if s.portal = .initInfo then
    if s.transfer then
      if 0 < s.total ∧ s.total < invalidSignalCount then
        some ({ s with gateAllChannelsFinished := { atLeastSignal := s.total } }.setPortal
          (if ok then .setCallback else .exit))
      else some (s.crash .signalCount)
    else some (s.crash .nullTransfer)
  else none

/-- A step of a channel's `fn_thread_work` that needs no answer. -/
def channelStep (c : ℕ) : Option State :=
  match s.chan c with
  | .waitReady => if s.gateClientPortalReady.isSet then some (s.setChan c .check) else none
  | .check =>
    some (s.setChan c (if s.isDisposeRequired then .exit false else .assertTransfer))
  | .assertTransfer =>
    if s.transfer then some (s.setChan c .invoke) else some (s.crash .nullTransfer)
  | .invoke =>
    if s.transfer then some (s.setChan c .transferring) else some (s.crash .nullTransfer)
  | .signalFinished result =>
    let gate := s.gateAllChannelsFinished.increment
    some ({ s with gateAllChannelsFinished := gate }.setChan c
      (if gate.reached then .setFinished result else .storeStatus result))
  | .setFinished result =>
    some ({ s with gateAllChannelsFinished := s.gateAllChannelsFinished.set }.setChan c
      (.storeStatus result))
  | .storeStatus result =>
    some ({ s with
      transferResultStatus := if result then s.transferResultStatus else .failed }.setChan c
        (.exit result))
  | .exit success => some ((if success then s else s.startDispose).setChan c .done)
  | .absent | .connecting | .transferring | .done => none

/-- The channel has connected and sent its header, or has not. -/
def connected (c : ℕ) (ok : Bool) : Option State :=
  if s.chan c = .connecting then some (s.setChan c (if ok then .waitReady else .exit false))
  else none

/-- The loop of `invoke_channel` ends; the gate of a destination is signalled on every way out. -/
def transferred (c : ℕ) (result : Bool) : Option State :=
  if s.chan c = .transferring ∧ (result → s.chanOpen c) then
    some ({ s with channelResult := Function.update s.channelResult c (some result) }.setChan c
      (if isFromServerToClient then .signalFinished result else .storeStatus result))
  else none

/-- A step of `dispose_impl`. -/
def disposeStep : Option State :=
  match s.disposer with
  | .idle => none
  | .disposeSocket => some ({ s with socketOpen := false }.setDisposer .resetSocket)
  | .resetSocket => some ({ s with socket := false }.setDisposer .ifTransfer)
  | .ifTransfer => some (s.setDisposer (if s.transfer then .disposeTransfer else .forceReady))
  | .disposeTransfer =>
    if s.gateAllChannelsFinished.initialized then
      some ({ s with
        gateAllChannelsFinished := s.gateAllChannelsFinished.force }.setDisposer .setFinished)
    else some (s.setDisposer .resetTransfer)
  | .setFinished =>
    some ({ s with
      gateAllChannelsFinished := s.gateAllChannelsFinished.set }.setDisposer .resetTransfer)
  | .resetTransfer => some ({ s with transfer := false }.setDisposer .forceReady)
  | .forceReady =>
    some ({ s with
      gateClientPortalReady := s.gateClientPortalReady.force }.setDisposer .setReady)
  | .setReady =>
    some ({ s with gateClientPortalReady := s.gateClientPortalReady.set }.setDisposer .joinPortal)
  | .joinPortal =>
    if s.portal = .done ∨ s.portal = .absent then some (s.setDisposer .acquireRundown) else none
  | .acquireRundown =>
    some ({ s with requiredRundown := true }.setDisposer (.disposeChannel s.channels))
  | .disposeChannel (c :: rest) =>
    some ({ s with chanOpen := Function.update s.chanOpen c false }.setDisposer
      (.joinChannel c rest))
  | .disposeChannel [] => some ({ s with channels := [] }.setDisposer .done)
  | .joinChannel c rest =>
    if s.chan c = .done then some (s.setDisposer (.disposeChannel rest)) else none
  | .done => none

/-- A step of the client. -/
def step (a : Action) : Option State :=
  if s.fault ≠ none then none
  else
    match a with
    | .init r               => s.init r
    | .main                 => s.mainStep
    | .signal               => some { s with exitRequired := true }
    | .portal               => s.portalStep isFromServerToClient
    | .information total    => s.information total
    | .portalOp ok          => s.portalOp isFromServerToClient ok
    | .initInfo ok          => s.initInfo ok
    | .channel c            => s.channelStep c
    | .connected c ok       => s.connected c ok
    | .transferred c result => s.transferred isFromServerToClient c result
    | .dispose              => s.disposeStep

end State

/-- The machine of a client, which downloads or uploads. -/
def machine (isFromServerToClient : Bool) : Machine State Action where
  init s := s = {}
  step s a := s.step isFromServerToClient a

end ClientPortal

end Xcp
