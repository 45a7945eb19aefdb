import Xcp.Protocol.Side
import Xcp.Transfer.SessionSmooth

/-!
# Protocol V1

The client and its instance on the server in one machine, with the messages in flight between their
portals, the connections of the channels, and the two transfers. Each process moves as it does alone;
a message that it receives has to be there, and a step that calls into its transfer is a step of the
transfer too. The machine begins when the client is about to connect, with the files of both
transfers at hand.

Nothing fails by itself. An operation on a connection fails only because one of the processes has
disposed its socket, and then whenever it can; a send from a file fails when the file has been closed.
-/

namespace Xcp

open ClientInstance (TransferKind)

open ClientPortal (kindOf)

namespace Protocol

/-- What the client sends over the portal connection. -/
inductive ClientMessage where
  | versions
  | request
  deriving DecidableEq

/-- What the server sends over the portal connection. -/
inductive ServerMessage where
  | version
  | information (total : ℕ)
  | response
  deriving DecidableEq

/-- The client, its instance and the two transfers; the messages in flight in both directions of the
portal connection, and the channels that are connected and not yet accepted. -/
structure State (F N : ℕ) where
  client : ClientPortal.State := {}
  server : ClientInstance.State
  session : Session.State F N
  toServer : List ClientMessage := []
  toClient : List ServerMessage := []
  connections : Finset ℕ := ∅

/-- What can happen: a step of one of the processes, or of a transfer inside a process. -/
inductive Action (N : ℕ) where
  | client (a : ClientPortal.Action)
  | server (a : ClientInstance.Action)
  | transfer (a : Session.Action N)
  deriving DecidableEq

/-! ### Messages -/

/-- The message that an action of the client sends. -/
def clientSends (s : ClientPortal.State) : ClientPortal.Action → Option ClientMessage
  | .init _ => some .versions
  | .portalOp true => if s.portal = .inside .sendRequest then some .request else none
  | _ => none

/-- The message that an action of the client receives. -/
def clientReceives (s : ClientPortal.State) : ClientPortal.Action → Option ServerMessage
  | .information total => some (.information total)
  | .portalOp true =>
    match s.portal with
    | .inside .recvVersion  => some .version
    | .inside .recvResponse => some .response
    | _ => none
  | _ => none

/-- The message that an action of the instance sends, which has `n` channels. -/
def serverSends (n : ℕ) (s : ClientInstance.State) : ClientInstance.Action → Option ServerMessage
  | .portalOp true =>
    match s.portal with
    | .inside .sendVersion     => some .version
    | .inside .sendInformation => some (.information n)
    | .inside .sendResponse    => some .response
    | _ => none
  | _ => none

/-- The message that an action of the instance receives. -/
def serverReceives (s : ClientInstance.State) : ClientInstance.Action → Option ClientMessage
  | .portalOp true =>
    match s.portal with
    | .inside .recvVersion => some .versions
    | .inside .recvRequest => some .request
    | _ => none
  | _ => none

/-- Take the message from the head of the queue. -/
def dequeue {α : Type} [DecidableEq α] (queue : List α) : Option α → Option (List α)
  | none => some queue
  | some m => if queue.head? = some m then some queue.tail else none

/-- An operation on a connection can fail: its own socket has been disposed, or that of the peer has
and nothing is left to be received. -/
def cut (ownOpen peerOpen pending : Bool) : Bool := !ownOpen || (!peerOpen && !pending)

/-! ### Transfers -/

section Transfers

variable {F N : ℕ} (cfg : Session.Config F N) (t : Session.State F N)

/-- The portal of the source is about to receive an error. -/
def reportsError : Bool := t.portalWire.head?.any fun msg => msg.errorCode ≠ 0

/-- The last exchange of a portal can fail. -/
def exchangeFails (ownOpen peerOpen : Bool) : TransferKind → Bool
  | .destination => cut ownOpen peerOpen false
  | .source => reportsError t || cut ownOpen peerOpen (!t.portalWire.isEmpty)

/-- The destination has closed and unmapped its files. -/
def filesClosed : Bool :=
  match t.destination.disposer with
  | .closeHandle n => F ≤ n
  | _ => false

/-- Channel `c` is about to send from a file that has been closed. -/
def sendsClosedFile (c : Fin N) : Bool :=
  match t.source.chan c with
  | .send n _ _ => !t.source.fileOpen n
  | _ => false

/-- What a call of its process does to a transfer. The gate is forced behind the files, and a source
is released once its files are closed. -/
def sync : TransferKind → Call → Option (Session.State F N)
  | _, .none | _, .leave _ _ => some t
  | _, .wake => t.step cfg .wakePortal
  | .destination, .exchange ok => t.step cfg (if ok then .sendFinished else .sendFinishedFailed)
  | .source, .exchange true => if reportsError t then none else t.step cfg .recvFinished
  | .source, .exchange false =>
    t.step cfg (if reportsError t then .recvFinished else .recvFinishedFailed)
  | _, .signal c | _, .set c => if hc : c < N then t.step cfg (.run ⟨c, hc⟩) else none
  | .destination, .closePortal => t.step cfg .closePortal
  | .source, .closePortal | .destination, .release => some t
  | .source, .release => if t.source.disposer = .done then some t else none
  | _, .force => if filesClosed t then t.step cfg .dispose else none
  | _, .setForced => t.step cfg .dispose

/-- A transfer can take the step, between the sides of the two processes. -/
def transferMay (source destination : Side) : Session.Action N → Bool
  | .source (.claim c) | .source (.report c) => source.phase c = .inside
  | .source (.send c _) | .source (.sendTail c) => source.phase c = .inside && source.chanOpen c
  | .source .dispose => source.disposal = .closing
  | .sendFailed c _ =>
    source.phase c = .inside &&
      (!source.chanOpen c || !destination.chanOpen c || sendsClosedFile t c)
  | .recv c => destination.phase c = .inside && destination.chanOpen c
  | .recvFailed c count =>
    destination.phase c = .inside &&
      (!destination.chanOpen c || (!source.chanOpen c && count = (t.wire c).length))
  | .run c => destination.phase c = .inside
  | .dispose => destination.disposal = .closing && !filesClosed t
  | _ => false

/-- The loop of `invoke_channel` that a step has ended. -/
def loopResult : Session.Action N → Option (TransferKind × Fin N × Bool)
  | .source (.sendTail c) | .sendFailed c _ =>
    match t.source.chan c with
    | .returned r => some (.source, c, r)
    | _ => none
  | .run c | .recvFailed c _ =>
    match t.destination.chan c with
    | .exit r => some (.destination, c, r)
    | _ => none
  | _ => none

end Transfers

/-! ### Steps -/

namespace State

variable {F N : ℕ} (cfg : Session.Config F N) (isFromServerToClient : Bool) (s : State F N)

/-- The process that runs the transfer. -/
def side (kind : TransferKind) : Side :=
  if kind = kindOf isFromServerToClient then s.client.side else s.server.side

/-- The client can take the step. -/
def clientMay : ClientPortal.Action → Bool
  | .init r => r = .connected
  | .portalOp ok =>
    ok || match s.client.portal with
      | .inside op =>
        cut s.client.socketOpen s.server.socketOpen (op ≠ .sendRequest && !s.toClient.isEmpty)
      | _ => exchangeFails s.session s.client.socketOpen s.server.socketOpen
          (kindOf isFromServerToClient)
  | .initInfo ok => ok
  | .connected c ok => ok || !s.client.chanOpen c
  | .signal | .transferred _ _ => false
  | .main | .portal | .information _ | .channel _ | .dispose => true

/-- The instance can take the step. -/
def serverMay : ClientInstance.Action → Bool
  | .portalOp ok =>
    ok || match s.server.portal with
      | .inside op =>
        cut s.server.socketOpen s.client.socketOpen
          ((op = .recvVersion || op = .recvRequest) && !s.toServer.isEmpty)
      | _ => exchangeFails s.session s.server.socketOpen s.client.socketOpen
          (kindOf !isFromServerToClient)
  | .create r => r = .created (kindOf !isFromServerToClient)
  | .initialise r => r = .ok
  | .openChannel c => c ∈ s.connections
  | .transferred _ _ | .loseChannel _ | .startDispose | .sendRequest | .close => false
  | .portal | .channel _ | .dispose => true

/-- The connections behind an action of the client. -/
def clientConnections : ClientPortal.Action → Finset ℕ
  | .connected c true => insert c s.connections
  | _ => s.connections

/-- The connections behind an action of the instance. -/
def serverConnections : ClientInstance.Action → Finset ℕ
  | .openChannel c => s.connections.erase c
  | _ => s.connections

/-- The instance behind an action of the client, whose request is complete when it has been sent. -/
def requested (a : ClientPortal.Action) : Option ClientInstance.State :=
  if clientSends s.client a = some .request then s.server.step N .sendRequest else some s.server

/-- A step of the client. -/
def clientStep (a : ClientPortal.Action) : Option (State F N) :=
  if s.clientMay isFromServerToClient a then do
    let client ← s.client.step isFromServerToClient a
    let session ← sync cfg s.session (kindOf isFromServerToClient) (s.client.call a)
    let toClient ← dequeue s.toClient (clientReceives s.client a)
    let server ← s.requested a
    some
      { client := client
        server := server
        session := session
        toServer := s.toServer ++ (clientSends s.client a).toList
        toClient := toClient
        connections := s.clientConnections a }
  else none

/-- A step of the instance, which is there once the client has connected. -/
def serverStep (a : ClientInstance.Action) : Option (State F N) :=
  if s.client.main ≠ .init ∧ s.serverMay isFromServerToClient a then do
    let server ← s.server.step N a
    let session ← sync cfg s.session (kindOf !isFromServerToClient) (s.server.call a)
    let toServer ← dequeue s.toServer (serverReceives s.server a)
    some
      { client := s.client
        server := server
        session := session
        toServer := toServer
        toClient := s.toClient ++ (serverSends N s.server a).toList
        connections := s.serverConnections a }
  else none

/-- The thread of a channel leaves the loop of `invoke_channel`. -/
def leave (kind : TransferKind) (c : ℕ) (result : Bool) : Option (State F N) :=
  if kind = kindOf isFromServerToClient then
    (s.client.step isFromServerToClient (.transferred c result)).map fun client =>
      { s with client := client }
  else
    (s.server.step N (.transferred c result)).map fun server => { s with server := server }

/-- A step of a transfer. With the step that ends its loop a channel leaves it. -/
def transferStep (a : Session.Action N) : Option (State F N) :=
  if transferMay s.session (s.side isFromServerToClient .source)
      (s.side isFromServerToClient .destination) a then do
    let session ← s.session.step cfg a
    match loopResult session a with
    | none => some { s with session := session }
    | some (kind, c, result) =>
      leave isFromServerToClient { s with session := session } kind c result
  else none

/-- A step of the protocol. -/
def step : Action N → Option (State F N)
  | .client a   => s.clientStep cfg isFromServerToClient a
  | .server a   => s.serverStep cfg isFromServerToClient a
  | .transfer a => s.transferStep cfg isFromServerToClient a

end State

/-- The machine of the protocol, for a download or an upload. -/
def machine {F N : ℕ} (cfg : Session.Config F N) (isFromServerToClient : Bool) :
    Machine (State F N) (Action N) where
  init s := ∃ server session, (ClientInstance.machine N).init server ∧
    (Session.machine cfg).init session ∧ s = { server := server, session := session }
  step s a := s.step cfg isFromServerToClient a

end Protocol

end Xcp
