import Mathlib
import Xcp.Server.ClientInstance
import Xcp.Server.Handshake

/-!
# The registry of the clients

`server_portal_state` as a machine: the accepted sockets on their way through
`fn_thread_unified_accepted_socket`, the map `clients` under `clients_mutex`, the instances that run,
the detached threads that remove them from the map, and `dispose_impl` of the server. An instance is
named by the portal connection that has created it.
-/

namespace Xcp

open Server

namespace Registry

/-- What is fixed of a server: its options, and the identity that every portal connection will
present. -/
structure Config (Id : Type) where
  programOptions : XcpdProgramOptions
  identity : ℕ → Id

/-- The owner of `clients_mutex`. -/
inductive Owner where
  | portal (k : ℕ)
  | channel (c : ℕ)
  | disposer
  deriving DecidableEq

/-- Where the thread of a portal connection is: it has not read greeting and identity yet, waits for
`clients_mutex`, holds it before and behind the check of `is_dispose_required`, and runs
`fn_portal`. -/
inductive PortalStage where
  | absent
  | accepted
  | waiting
  | locked
  | checked
  | running
  | rejected
  deriving DecidableEq

/-- Where the thread of a channel connection is: it has not read greeting and identity yet, waits for
`clients_mutex`, holds it, and has been attached to an instance; it goes on there. It is rejected
because it cannot be read, because the endpoint allows no channels, or for an unknown identity. -/
inductive ChannelStage (Id : Type) where
  | absent
  | accepted (l : Listener) (identity : Id)
  | waiting (identity : Id)
  | locked (identity : Id)
  | attached (k : ℕ)
  | disconnected
  | notAllowed
  | unknownIdentity
  deriving DecidableEq

/-- Where the removal of an instance from `clients` is: its `dispose_impl` has not come to it, it was
skipped because the server is being disposed, the detached thread has been started, it waits for
`clients_mutex`, and it has erased the identity. -/
inductive Removal where
  | absent
  | skipped
  | spawned
  | waiting
  | erased
  deriving DecidableEq

/-- Where `dispose_impl` of the server is: the listening sockets are being closed, it waits for
`clients_mutex`, it is about to dispose the clients of the list, and waits for one of them. -/
inductive DisposerPc where
  | idle
  | closing
  | lock
  | next (rest : List ℕ)
  | waiting (k : ℕ) (rest : List ℕ)
  | done
  deriving DecidableEq

/-- `server_portal_state` with the threads of its connections. `opener` tells which client has opened
a channel, if it is one that follows the protocol. -/
structure State (Id : Type) where
  clients : AList fun _ : Id => ℕ := ∅
  clientsMutex : Option Owner := none
  portal : ℕ → PortalStage := fun _ => .absent
  channel : ℕ → ChannelStage Id := fun _ => .absent
  opener : ℕ → Option ℕ := fun _ => none
  client : ℕ → ClientInstance.State
  removal : ℕ → Removal := fun _ => .absent
  disposer : DisposerPc := .idle
  aborted : Bool := false

/-- What can happen: a connection is accepted, its greeting and identity are read or not, a thread
takes a step, and the server is shut down. A channel is opened by a client that follows the protocol
or by anyone. -/
inductive Action (Id : Type) where
  | acceptPortal (k : ℕ)
  | greetPortal (k : ℕ) (ok : Bool)
  | portal (k : ℕ)
  | openChannel (c k : ℕ) (l : Listener)
  | acceptChannel (c : ℕ) (l : Listener) (identity : Id)
  | greetChannel (c : ℕ) (ok : Bool)
  | channel (c : ℕ)
  | client (k : ℕ) (a : ClientInstance.Action)
  | removal (k : ℕ)
  | shutdown
  | dispose
  | disposeClient (k : ℕ)
  deriving DecidableEq

/-- The endpoints that `message_server_information` announces: the portal if it has repeats, and all
channels. -/
def advertised (o : XcpdProgramOptions) : Listener → Bool
  | .portal  => o.argPortal.repeats.isSome
  | .channel => true

/-- `clients.insert`, which keeps an entry that exists. -/
def insertClient {Id : Type} [DecidableEq Id] (identity : Id) (k : ℕ)
    (clients : AList fun _ : Id => ℕ) : AList fun _ : Id => ℕ :=
  if identity ∈ clients then clients else clients.insert identity k

/-- A channel comes to an instance. -/
def attach (c : ℕ) (i : ClientInstance.State) : ClientInstance.State :=
  { i with opened := insert c i.opened }.setChan c .acquire

/-- The steps of an instance that its own threads take, and the request of its client. -/
def ofClient : ClientInstance.Action → Bool
  | .startDispose | .openChannel _ | .loseChannel _ | .close => false
  | _ => true

namespace State

variable {Id : Type} [DecidableEq Id] (cfg : Config Id) (s : State Id)

def setPortal (k : ℕ) (p : PortalStage) : State Id :=
  { s with portal := Function.update s.portal k p }

def setChannel (c : ℕ) (p : ChannelStage Id) : State Id :=
  { s with channel := Function.update s.channel c p }

def setClient (k : ℕ) (i : ClientInstance.State) : State Id :=
  { s with client := Function.update s.client k i }

def setRemoval (k : ℕ) (r : Removal) : State Id :=
  { s with removal := Function.update s.removal k r }

/-- The accept threads run. -/
def accepting : Bool := s.disposer = .idle ∨ s.disposer = .closing

/-- The thread of a portal connection, until `fn_portal`. -/
def portalStep (k : ℕ) : Option (State Id) :=
  match s.portal k with
  | .waiting =>
    if s.clientsMutex = none then
      some ({ s with clientsMutex := some (.portal k) }.setPortal k .locked)
    else none
  | .locked =>
    some (if s.disposer = .idle then s.setPortal k .checked
      else { s with clientsMutex := none }.setPortal k .rejected)
  | .checked =>
    some ({ s with
      clients := insertClient (cfg.identity k) k s.clients
      clientsMutex := none }.setPortal k .running)
  | _ => none

/-- The thread of a channel connection, until it comes to an instance. -/
def channelStep (c : ℕ) : Option (State Id) :=
  match s.channel c with
  | .waiting identity =>
    if s.clientsMutex = none then
      some ({ s with clientsMutex := some (.channel c) }.setChannel c (.locked identity))
    else none
  | .locked identity =>
    match s.clients.lookup identity with
    | none   => some ({ s with clientsMutex := none }.setChannel c .unknownIdentity)
    | some k =>
      some (({ s with clientsMutex := none }.setChannel c (.attached k)).setClient k
        (attach c (s.client k)))
  | _ => none

/-- A step of an instance. The thread of a portal connection owns the instance, and so does the entry
in `clients`. A thread that is the only owner destroys the instance when it leaves `fn_portal`, and
waits there for the end of `dispose_impl`: it is never joined. Before `dispose` of an instance ends
it starts the thread that removes the instance, unless the server is being disposed. -/
def clientStep (k : ℕ) (a : ClientInstance.Action) : Option (State Id) :=
  if s.portal k = .running ∧ ofClient a = true then
    if a = .dispose ∧ (s.client k).disposer = .joinPortal ∧
        s.clients.lookup (cfg.identity k) ≠ some k then none
    else if a = .dispose ∧ (s.client k).disposer = .remove ∧ s.removal k = .absent then
      some (s.setRemoval k (if s.disposer = .idle then .spawned else .skipped))
    else
      ((s.client k).step cfg.programOptions.totalChannelRepeatsCount a).map fun i =>
        { s with aborted := i.fault.isSome }.setClient k i
  else none

/-- The detached thread that removes an instance. -/
def removalStep (k : ℕ) : Option (State Id) :=
  match s.removal k with
  | .spawned => some (s.setRemoval k (if s.disposer = .idle then .waiting else .skipped))
  | .waiting =>
    if s.clientsMutex = none then
      some ({ s with clients := s.clients.erase (cfg.identity k) }.setRemoval k .erased)
    else none
  | _ => none

/-- A step of `dispose_impl` of the server that leaves no choice. -/
def disposeStep : Option (State Id) :=
  match s.disposer with
  | .closing => some { s with disposer := .lock }
  | .lock =>
    if s.clientsMutex = none then
      some { s with
        clientsMutex := some .disposer
        disposer := .next (s.clients.entries.map Sigma.snd) }
    else none
  | .next [] =>
    some { s with
      clients := ∅
      clientsMutex := none
      disposer := .done }
  | .waiting k rest =>
    if (s.client k).disposer = .done then some { s with disposer := .next rest } else none
  | .idle | .next (_ :: _) | .done => none

/-- `dispose` of the client that the iteration over `clients` comes to. -/
def disposeClient (k : ℕ) : Option (State Id) :=
  match s.disposer with
  | .next rest =>
    if k ∈ rest then
      some ({ s with disposer := .waiting k (rest.erase k) }.setClient k
        (s.client k).startDispose)
    else none
  | _ => none

/-- A step of the server. -/
def step (a : Action Id) : Option (State Id) :=
  if s.aborted then none
  else
    match a with
    | .acceptPortal k =>
      if s.accepting ∧ s.portal k = .absent then some (s.setPortal k .accepted) else none
    | .greetPortal k ok =>
      if s.portal k = .accepted then some (s.setPortal k (if ok then .waiting else .rejected))
      else none
    | .portal k => s.portalStep cfg k
    | .openChannel c k l =>
      if s.accepting ∧ s.channel c = .absent ∧ advertised cfg.programOptions l ∧
          s.portal k = .running ∧ (s.client k).informationSent then
        some ({ s with opener := Function.update s.opener c (some k) }.setChannel c
          (.accepted l (cfg.identity k)))
      else none
    | .acceptChannel c l identity =>
      if s.accepting ∧ s.channel c = .absent then some (s.setChannel c (.accepted l identity))
      else none
    | .greetChannel c ok =>
      match s.channel c with
      | .accepted l identity =>
        some (s.setChannel c
          (if ok then
            (if l.allowRoleChannel cfg.programOptions then .waiting identity else .notAllowed)
          else .disconnected))
      | _ => none
    | .channel c       => s.channelStep c
    | .client k a      => s.clientStep cfg k a
    | .removal k       => s.removalStep cfg k
    | .shutdown        => if s.disposer = .idle then some { s with disposer := .closing } else none
    | .dispose         => s.disposeStep
    | .disposeClient k => s.disposeClient k

end State

/-- A server without connections. -/
def start {Id : Type} (cfg : Config Id) : State Id where
  client _ := ClientInstance.start cfg.programOptions.totalChannelRepeatsCount

/-- The machine of a server; the number of its channels is positive, as the constructor of an
instance checks. -/
def machine {Id : Type} [DecidableEq Id] (cfg : Config Id) : Machine (State Id) (Action Id) where
  init s := 0 < cfg.programOptions.totalChannelRepeatsCount ∧
    cfg.programOptions.totalChannelRepeatsCount < invalidSignalCount ∧ s = start cfg
  step s a := s.step cfg a

end Registry

end Xcp
