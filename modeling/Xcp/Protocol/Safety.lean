import Xcp.Protocol.Messages

/-!
# No interleaving leaves the order

In every reachable state of the protocol both processes are in order and their transfers are where
they take them to be: the failures that a disposed socket or a closed file could cause never come,
because each process disposes only behind the last exchange, which is behind all channels of both.
-/

namespace Xcp

open ClientInstance (TransferKind)

open ClientPortal (kindOf Ready)

namespace Protocol

variable {F N : ℕ} {cfg : Session.Config F N} {isFromServerToClient : Bool} {s s' : State F N}

/-- What is in flight over the portal connection, and what the processes know from it. -/
structure Messages (s : State F N) : Prop where
  toServer : s.toServer =
    inFlight clientMessages s.client.portal.sent s.server.portal.received
  toClient : s.toClient =
    inFlight (serverMessages N) s.server.portal.sent s.client.portal.received
  serverLe : s.server.portal.received ≤ s.client.portal.sent
  clientLe : s.client.portal.received ≤ s.server.portal.sent
  request : s.server.requestSent = true ↔ 2 ≤ s.client.portal.sent
  total : s.client.total = if 2 ≤ s.client.portal.received then N else 0

/-- A channel of the client that is connected has been accepted or is about to be. -/
structure Connections (s : State F N) : Prop where
  connected : ∀ c, (s.client.chan c).Connected ↔ c ∈ s.connections ∨ s.server.chan c ≠ .absent
  absent : ∀ c ∈ s.connections, s.server.chan c = .absent

/-- What holds in every state of the protocol. -/
structure Inv (cfg : Session.Config F N) (isFromServerToClient : Bool) (s : State F N) : Prop where
  client : (ClientPortal.machine isFromServerToClient).ReachIf ClientPortal.Orderly s.client
  server : (ClientInstance.machine N).ReachIf
    (ClientInstance.Orderly N (kindOf !isFromServerToClient)) s.server
  linked : Linked cfg s.session (s.side isFromServerToClient .source)
    (s.side isFromServerToClient .destination)
  messages : Messages s
  connections : Connections s

/-! ### Sides -/

lemma Inv.ready (h : Inv cfg isFromServerToClient s) : Ready isFromServerToClient s.client :=
  .of_reach h.client

lemma Inv.inOrder (h : Inv cfg isFromServerToClient s) :
    ClientInstance.InOrder N (kindOf !isFromServerToClient) s.server := .of_reach h.server

/-- Once the portal thread of either process is behind the exchange, all channels have returned. -/
lemma Inv.returned (h : Inv cfg isFromServerToClient s)
    (hportal : s.client.side.portal = .behind ∨ s.server.side.portal = .behind) :
    (∀ c, s.session.source.chan c = .returned true) ∧
      ∀ c, s.session.destination.chan c = .returned true := by
  have hlinked := h.linked
  cases isFromServerToClient with
  | true => exact hlinked.returned hportal.symm
  | false => exact hlinked.returned hportal

/-- Once all channels have returned, all threads are behind their loops. -/
lemma Inv.behind_of_returned (h : Inv cfg isFromServerToClient s)
    (hreturned : (∀ c, s.session.source.chan c = .returned true) ∧
      ∀ c, s.session.destination.chan c = .returned true) {c : ℕ} (hc : c < N) :
    s.client.side.phase c = .behind ∧ s.server.side.phase c = .behind := by
  have hlinked := h.linked
  cases isFromServerToClient with
  | true =>
    exact ⟨hlinked.destination_behind hc hreturned.2, hlinked.source_behind hc hreturned.1⟩
  | false =>
    exact ⟨hlinked.source_behind hc hreturned.1, hlinked.destination_behind hc hreturned.2⟩

/-- Once the portal thread of either process is behind the exchange, all channels of both are behind
their loops. -/
lemma Inv.behind (h : Inv cfg isFromServerToClient s)
    (hportal : s.client.side.portal = .behind ∨ s.server.side.portal = .behind) {c : ℕ}
    (hc : c < N) : s.client.side.phase c = .behind ∧ s.server.side.phase c = .behind :=
  h.behind_of_returned (h.returned hportal) hc

/-- A process closes its sockets only behind the exchange. -/
lemma Inv.settled (h : Inv cfg isFromServerToClient s) :
    s.client.side.Settled ∧ s.server.side.Settled := by
  have hlinked := h.linked
  cases isFromServerToClient with
  | true => exact ⟨hlinked.destination.settled, hlinked.source.settled⟩
  | false => exact ⟨hlinked.source.settled, hlinked.destination.settled⟩

/-! ### Threads and channels -/

/-- A client whose channel is behind its loop has signalled that it is ready. -/
lemma Inv.client_pastReady (h : Inv cfg isFromServerToClient s) {c : ℕ}
    (hphase : s.client.side.phase c = .behind) : s.client.portal.PastReady := by
  have horder := h.ready.order
  refine horder.inv.started.past c (.inr ?_)
  rw [horder.course.left c ?_]
  · nofun
  · cases hpc : s.client.chan c with
    | storeStatus | exit | done => trivial
    | _ => simp [ClientPortal.State.side, hpc, ClientPortal.ChannelPc.phase] at hphase

/-- A channel of the client that is behind its loop has transferred. -/
lemma Inv.channelResult (h : Inv cfg isFromServerToClient s) {c : ℕ}
    (hphase : s.client.side.phase c = .behind) : s.client.channelResult c = some true := by
  refine h.ready.order.course.left c ?_
  cases hpc : s.client.chan c with
  | storeStatus | exit | done => trivial
  | _ => simp [ClientPortal.State.side, hpc, ClientPortal.ChannelPc.phase] at hphase

/-- A channel of the server that is behind its loop has left it. -/
lemma left_of_behind {c : ℕ} (hphase : s.server.side.phase c = .behind) :
    (s.server.chan c).Left := by
  cases hpc : s.server.chan c with
  | exit | done => trivial
  | _ => simp [ClientInstance.State.side, hpc, ClientInstance.ChannelPc.phase] at hphase

/-- An instance whose channel is behind its loop has signalled that it is ready, or has ended. -/
lemma Inv.server_pastReady (h : Inv cfg isFromServerToClient s) {c : ℕ}
    (hphase : s.server.side.phase c = .behind) :
    s.server.portal.PastReady ∨ s.server.portal = .done := by
  have horder := h.inOrder
  by_cases hidle : s.server.disposer = .idle
  · have hwaits := (horder.idle hidle).waits
    refine .inl (hwaits.ready (hwaits.chan c ?_))
    have hleft := left_of_behind hphase
    cases hpc : s.server.chan c with
    | exit | done => trivial
    | _ =>
      rw [hpc] at hleft
      exact hleft.elim
  · exact .inr (horder.course.disposer hidle)

/-! ### Nothing fails -/

lemma Inv.total_eq (h : Inv cfg isFromServerToClient s) :
    s.client.total = 0 ∨ s.client.total = N := by
  rw [h.messages.total]
  split_ifs
  · exact .inr rfl
  · exact .inl rfl

/-- The sockets of the portals are open while one of the portal threads has not come to the
exchange. -/
lemma Inv.portals_open (h : Inv cfg isFromServerToClient s)
    (hbefore : (¬ s.client.portal.PastReady) ∨
      ¬ s.server.portal.PastReady ∧ s.server.portal ≠ .done) :
    s.client.socketOpen = true ∧ s.server.socketOpen = true := by
  have hpos := h.inOrder.pos
  have hnot : ¬ (s.client.side.portal = .behind ∨ s.server.side.portal = .behind) := by
    intro hportal
    obtain ⟨hclient, hserver⟩ := h.behind hportal hpos
    rcases hbefore with hbefore | hbefore
    · exact hbefore (h.client_pastReady hclient)
    · exact (h.server_pastReady hserver).elim hbefore.1 hbefore.2
  rw [not_or] at hnot
  exact ⟨h.settled.1.portalOpen hnot.1, h.settled.2.portalOpen hnot.2⟩

/-- The exchange of the client does not fail. -/
lemma Inv.not_client_exchangeFails (h : Inv cfg isFromServerToClient s)
    (hpc : s.client.portal = .exchange) :
    exchangeFails s.session s.client.socketOpen s.server.socketOpen
      (kindOf isFromServerToClient) = false := by
  have hlinked := h.linked
  have hphase : s.client.side.portal = .exchanging := by
    simp [ClientPortal.State.side, hpc, ClientPortal.PortalPc.phase]
  cases isFromServerToClient with
  | true => exact hlinked.not_exchangeFails_destination hphase
  | false => exact hlinked.not_exchangeFails_source hphase

/-- The exchange of the server does not fail. -/
lemma Inv.not_server_exchangeFails (h : Inv cfg isFromServerToClient s)
    (hpc : s.server.portal = .exchange) :
    exchangeFails s.session s.server.socketOpen s.client.socketOpen
      (kindOf !isFromServerToClient) = false := by
  have hlinked := h.linked
  have hphase : s.server.side.portal = .exchanging := by
    simp [ClientInstance.State.side, hpc, ClientInstance.PortalPc.phase]
  cases isFromServerToClient with
  | true => exact hlinked.not_exchangeFails_source hphase
  | false => exact hlinked.not_exchangeFails_destination hphase

/-- The exchange comes behind all channels. -/
lemma Linked.returned_of_exchange {t t' : Session.State F N} {v w : Side} {kind : TransferKind}
    (h : Linked cfg t v w) (hsync : sync cfg t kind (.exchange true) = some t') :
    (∀ c, t.source.chan c = .returned true) ∧ ∀ c, t.destination.chan c = .returned true := by
  cases kind with
  | source =>
    obtain ⟨-, -, -, -, -, hwire, -⟩ := sourcePortal_exchange hsync
    exact h.returned_of_report (by rw [h.inOrder.portals.sent (.inl hwire)]; nofun)
  | destination =>
    replace hsync : t.step cfg .sendFinished = some t' := hsync
    cases Session.Step.of_step hsync with
    | sendFinished hpc => exact h.returned_of_report (by rw [hpc]; nofun)

/-- Every step that the client can take is in order. -/
lemma Inv.client_orderly (h : Inv cfg isFromServerToClient s) {a : ClientPortal.Action}
    {client : ClientPortal.State} {t : Session.State F N} {q : List ServerMessage}
    (hmay : s.clientMay isFromServerToClient a = true)
    (hclient : s.client.step isFromServerToClient a = some client)
    (hsync : sync cfg s.session (kindOf isFromServerToClient) (s.client.call a) = some t)
    (hdequeue : dequeue s.toClient (clientReceives s.client a) = some q) :
    ClientPortal.Orderly s.client a := by
  have hready := h.ready
  have hfault : ¬ s.client.fault ≠ none := not_not.mpr hready.order.fault
  unfold ClientPortal.State.step at hclient
  rw [if_neg hfault] at hclient
  cases a with
  | init r => simpa [State.clientMay, ClientPortal.Orderly] using hmay
  | signal | transferred => cases hmay
  | main | portal | channel | dispose => trivial
  | initInfo ok => exact hmay
  | information total =>
    replace hclient : s.client.information total = some client := hclient
    unfold ClientPortal.State.information at hclient
    split_ifs at hclient with hpc
    have hreceived : s.client.portal.received = 1 := by rw [hpc.1]; rfl
    rw [h.messages.toClient, hreceived] at hdequeue
    obtain ⟨-, hmessage, -⟩ := inFlight_receive hdequeue
    obtain rfl : N = total := by simpa [serverMessages] using hmessage
    exact ⟨h.inOrder.pos, h.inOrder.lt⟩
  | connected c ok =>
    cases ok with
    | true => rfl
    | false =>
      replace hclient : s.client.connected c false = some client := hclient
      by_cases hpc : s.client.chan c = .connecting
      swap
      · rw [ClientPortal.State.connected, if_neg hpc] at hclient
        cases hclient
      have hopen : s.client.chanOpen c = false := by simpa [State.clientMay] using hmay
      have hportal := h.settled.1 (.inr (.inr ⟨c, hopen⟩))
      have hc : c < N := by
        have hlt := hready.order.inv.threads.total c (by simp [hpc])
        rcases h.total_eq with htotal | htotal <;> rw [htotal] at hlt
        · cases hlt
        · exact hlt
      have hphase := (h.behind (.inl hportal) hc).1
      simp [ClientPortal.State.side, hpc, ClientPortal.ChannelPc.phase] at hphase
  | portalOp ok =>
    replace hclient : s.client.portalOp isFromServerToClient ok = some client := hclient
    cases ok with
    | true =>
      refine ⟨rfl, fun hpc c hc => h.channelResult ?_⟩
      have hreturned := h.linked.returned_of_exchange (by
        simpa [ClientPortal.State.call, hpc] using hsync)
      refine (h.behind_of_returned hreturned ?_).1
      rcases h.total_eq with htotal | htotal <;> rw [htotal] at hc
      · cases hc
      · exact hc
    | false =>
      exfalso
      unfold ClientPortal.State.portalOp at hclient
      simp only [State.clientMay, Bool.false_or] at hmay
      split at hclient
      · next op hpc =>
        have hopen := h.portals_open (.inl (by rw [hpc]; exact id))
        simp [hpc, cut, hopen.1, hopen.2] at hmay
      · next hpc =>
        simp [hpc, h.not_client_exchangeFails hpc] at hmay
      · cases hclient

/-- A channel of the client that is connected is one of the `N`. -/
lemma Inv.lt_of_connected (h : Inv cfg isFromServerToClient s) {c : ℕ}
    (hc : (s.client.chan c).Connected) : c < N := by
  have hlt := h.ready.order.inv.threads.total c fun habsent => by
    rw [habsent] at hc
    exact hc
  rcases h.total_eq with htotal | htotal <;> rw [htotal] at hlt
  · cases hlt
  · exact hlt

/-- Every step that the instance can take is in order. -/
lemma Inv.server_orderly (h : Inv cfg isFromServerToClient s) {a : ClientInstance.Action}
    {server : ClientInstance.State} {t : Session.State F N}
    (hmay : s.serverMay isFromServerToClient a = true) (hserver : s.server.step N a = some server)
    (hsync : sync cfg s.session (kindOf !isFromServerToClient) (s.server.call a) = some t) :
    ClientInstance.Orderly N (kindOf !isFromServerToClient) s.server a := by
  have hfault : ¬ s.server.fault ≠ none := not_not.mpr h.inOrder.fault
  unfold ClientInstance.State.step at hserver
  rw [if_neg hfault] at hserver
  cases a with
  | create r => simpa [State.serverMay, ClientInstance.Orderly] using hmay
  | initialise r => simpa [State.serverMay, ClientInstance.Orderly] using hmay
  | transferred | loseChannel | startDispose | sendRequest | close => cases hmay
  | portal | channel | dispose => trivial
  | openChannel c =>
    have hmem : c ∈ s.connections := by simpa [State.serverMay] using hmay
    exact h.lt_of_connected ((h.connections.connected c).mpr (.inl hmem))
  | portalOp ok =>
    replace hserver : s.server.portalOp ok = some server := hserver
    cases ok with
    | true =>
      refine ⟨rfl, fun hpc c hc => ?_⟩
      have hreturned := h.linked.returned_of_exchange (by
        simpa [ClientInstance.State.call, hpc] using hsync)
      exact left_of_behind (h.behind_of_returned hreturned hc).2
    | false =>
      exfalso
      unfold ClientInstance.State.portalOp at hserver
      simp only [State.serverMay, Bool.false_or] at hmay
      split at hserver
      · next op hpc =>
        have hbefore : ¬ s.server.portal.PastReady := by
          rw [hpc]
          rintro (h | h | h | h) <;> cases h
        have hopen := h.portals_open (.inr ⟨hbefore, by simp [hpc]⟩)
        simp [hpc, cut, hopen.1, hopen.2] at hmay
      · next hpc =>
        simp [hpc, h.not_server_exchangeFails hpc] at hmay
      · cases hserver

/-! ### What a step can do -/

lemma Move.of_total {n : ℕ} {v v' : Side} {kind : TransferKind} {call : Call}
    (h : Move n v kind call v') (hn : n = 0 ∨ n = N) : Move N v kind call v' := by
  rcases hn with rfl | rfl
  · cases h with
    | enter hc => cases hc
    | initialise hpos => cases hpos
    | stay => exact .stay
    | wait hpc => exact .wait hpc
    | invoke hpc => exact .invoke hpc
    | wake hpc => exact .wake hpc
    | exchange hpc => exact .exchange hpc
    | leaveSource hpc => exact .leaveSource hpc
    | leaveDestination hpc => exact .leaveDestination hpc
    | signal hpc => exact .signal hpc
    | set hpc => exact .set hpc
    | closePortal hpc => exact .closePortal hpc
    | closeChannel hpc => exact .closeChannel hpc
    | close hpc hopen hd => exact .close hpc hopen hd
    | release hd => exact .release hd
    | force hd hgate => exact .force hd hgate
    | setForced hd => exact .setForced hd
  · exact h

/-- A step of the client, taken apart. -/
structure ClientStep (cfg : Session.Config F N) (isFromServerToClient : Bool) (s : State F N)
    (a : ClientPortal.Action) (s' : State F N) : Prop where
  may : s.clientMay isFromServerToClient a = true
  client : s.client.step isFromServerToClient a = some s'.client
  session : sync cfg s.session (kindOf isFromServerToClient) (s.client.call a) = some s'.session
  toClient : dequeue s.toClient (clientReceives s.client a) = some s'.toClient
  server : s.requested a = some s'.server
  toServer : s'.toServer = s.toServer ++ (clientSends s.client a).toList
  connections : s'.connections = s.clientConnections a

lemma ClientStep.of_step {a : ClientPortal.Action}
    (h : s.clientStep cfg isFromServerToClient a = some s') :
    ClientStep cfg isFromServerToClient s a s' := by
  unfold State.clientStep at h
  by_cases hmay : s.clientMay isFromServerToClient a = true
  swap
  · rw [if_neg hmay] at h
    cases h
  rw [if_pos hmay] at h
  simp only [Option.bind_eq_bind, Option.bind_eq_some_iff] at h
  obtain ⟨client, hclient, session, hsession, toClient, htoClient, server, hserver, h⟩ := h
  cases h
  exact ⟨hmay, hclient, hsession, htoClient, hserver, rfl, rfl⟩

/-- A step of the instance, taken apart. -/
structure ServerStep (cfg : Session.Config F N) (isFromServerToClient : Bool) (s : State F N)
    (a : ClientInstance.Action) (s' : State F N) : Prop where
  may : s.serverMay isFromServerToClient a = true
  server : s.server.step N a = some s'.server
  session : sync cfg s.session (kindOf !isFromServerToClient) (s.server.call a) = some s'.session
  toServer : dequeue s.toServer (serverReceives s.server a) = some s'.toServer
  client : s'.client = s.client
  toClient : s'.toClient = s.toClient ++ (serverSends N s.server a).toList
  connections : s'.connections = s.serverConnections a

lemma ServerStep.of_step {a : ClientInstance.Action}
    (h : s.serverStep cfg isFromServerToClient a = some s') :
    ServerStep cfg isFromServerToClient s a s' := by
  unfold State.serverStep at h
  split_ifs at h with hmay
  simp only [Option.bind_eq_bind, Option.bind_eq_some_iff] at h
  obtain ⟨server, hserver, session, hsession, toServer, htoServer, h⟩ := h
  cases h
  exact ⟨hmay.2, hserver, hsession, htoServer, rfl, rfl, rfl⟩

/-! ### The invariant -/

/-- What an action of the client means for the instance. -/
structure Requested (s : State F N) (a : ClientPortal.Action) (server : ClientInstance.State) :
    Prop where
  reach : ∀ kind, (ClientInstance.machine N).ReachIf (ClientInstance.Orderly N kind) s.server →
    (ClientInstance.machine N).ReachIf (ClientInstance.Orderly N kind) server
  side : server.side = s.server.side
  portal : server.portal = s.server.portal
  chan : server.chan = s.server.chan
  request : server.requestSent =
    (s.server.requestSent || decide (clientSends s.client a = some .request))

lemma Requested.of_requested {a : ClientPortal.Action} {server : ClientInstance.State}
    (h : s.requested a = some server) : Requested s a server := by
  unfold State.requested at h
  split_ifs at h with hsends
  · have horderly : ∀ kind, ClientInstance.Orderly N kind s.server .sendRequest := fun _ => trivial
    have hreach := fun kind (hreach : (ClientInstance.machine N).ReachIf
      (ClientInstance.Orderly N kind) s.server) => hreach.step (horderly kind) h
    cases (ClientInstance.Step.of_step h).2 with
    | portal ha | channel ha => simp at ha
    | sendRequest => exact ⟨hreach, rfl, rfl, rfl, by simp [hsends]⟩
  · cases h
    exact ⟨fun _ => id, rfl, rfl, rfl, by simp [hsends]⟩

lemma inFlight_toList_send {α : Type} {l : List α} {i j : ℕ} {m : Option α}
    (h : ∀ x, m = some x → l[i]? = some x) (hj : j ≤ i) :
    inFlight l i j ++ m.toList = inFlight l (i + m.toList.length) j := by
  cases m with
  | none => simp
  | some x => exact inFlight_send (h x rfl) hj

lemma inFlight_toList_receive {α : Type} [DecidableEq α] {l q : List α} {i j : ℕ} {m : Option α}
    (h : dequeue (inFlight l i j) m = some q) (hji : j ≤ i) :
    j + m.toList.length ≤ i ∧ q = inFlight l i (j + m.toList.length) := by
  cases m with
  | none =>
    cases h
    exact ⟨hji, rfl⟩
  | some x =>
    obtain ⟨hlt, -, hq⟩ := inFlight_receive h
    exact ⟨hlt, hq⟩

lemma Messages.clientStep {a : ClientPortal.Action} (h : Messages s)
    (hstep : ClientStep cfg isFromServerToClient s a s')
    (he : ClientPortal.Exchanged s.client a s'.client) (hr : Requested s a s'.server) :
    Messages s' := by
  obtain ⟨htoServer, htoClient, hserverLe, hclientLe, hrequest, htotal⟩ := h
  have hdequeue := hstep.toClient
  rw [htoClient] at hdequeue
  obtain ⟨hle, hq⟩ := inFlight_toList_receive hdequeue hclientLe
  have hsent := he.sent
  have hreceived := he.received
  refine ⟨?_, ?_, ?_, ?_, ?_, ?_⟩
  · rw [hstep.toServer, htoServer, inFlight_toList_send he.sends hserverLe, ← he.sent, hr.portal]
  · rw [hq, ← he.received, hr.portal]
  · rw [hr.portal, he.sent]
    exact hserverLe.trans (Nat.le_add_right _ _)
  · rw [hr.portal, he.received]
    exact hle
  · rw [hr.request, Bool.or_eq_true, decide_eq_true_eq, hrequest]
    cases hsends : clientSends s.client a with
    | none =>
      rw [hsends] at hsent
      simp [hsent]
    | some m =>
      rw [hsends] at hsent
      obtain ⟨rfl, hi⟩ | ⟨rfl, hi⟩ := clientMessages_eq_some (he.sends m hsends)
      · simp [hsent, hi]
      · simp [hsent, hi]
  · rw [he.total]
    cases hreceives : clientReceives s.client a with
    | none =>
      rw [hreceives] at hreceived
      rw [hreceived]
      exact htotal
    | some m =>
      rw [hreceives] at hreceived hdequeue
      obtain ⟨-, hmessage, -⟩ := inFlight_receive hdequeue
      obtain ⟨rfl, hi⟩ | ⟨rfl, hi⟩ | ⟨rfl, hi⟩ := serverMessages_eq_some hmessage
      · simp [hreceived, hi, htotal]
      · simp [hreceived, hi]
      · simp [hreceived, hi, htotal]

lemma Messages.serverStep {a : ClientInstance.Action} (h : Messages s)
    (hstep : ServerStep cfg isFromServerToClient s a s')
    (he : ClientInstance.Exchanged N s.server a s'.server) (ha : a ≠ .sendRequest) :
    Messages s' := by
  obtain ⟨htoServer, htoClient, hserverLe, hclientLe, hrequest, htotal⟩ := h
  have hdequeue := hstep.toServer
  rw [htoServer] at hdequeue
  obtain ⟨hle, hq⟩ := inFlight_toList_receive hdequeue hserverLe
  refine ⟨?_, ?_, ?_, ?_, ?_, ?_⟩
  · rw [hq, ← he.received, hstep.client]
  · rw [hstep.toClient, htoClient, inFlight_toList_send he.sends hclientLe, ← he.sent,
      hstep.client]
  · rw [hstep.client, he.received]
    exact hle
  · rw [hstep.client, he.sent]
    exact hclientLe.trans (Nat.le_add_right _ _)
  · rw [hstep.client, he.request, ← hrequest]
    simp [ha]
  · rw [hstep.client]
    exact htotal

lemma Connections.clientStep {a : ClientPortal.Action} (h : Connections s)
    (hstep : ClientStep cfg isFromServerToClient s a s')
    (he : ClientPortal.Exchanged s.client a s'.client) (hr : Requested s a s'.server)
    (hconnecting : ∀ c, a = .connected c true → s.client.chan c = .connecting) :
    Connections s' := by
  obtain ⟨hconnected, habsent⟩ := h
  have hmem : ∀ c, c ∈ s'.connections ↔ c ∈ s.connections ∨ a = .connected c true := by
    intro c
    rw [hstep.connections]
    unfold State.clientConnections
    split
    · next i => simp [or_comm, eq_comm]
    · next hne => exact (or_iff_left fun heq => hne c heq).symm
  constructor
  · intro c
    rw [he.connected, hconnected, hmem, hr.chan]
    tauto
  · intro c hc
    rw [hr.chan]
    rcases (hmem c).mp hc with hc | hc
    · exact habsent c hc
    · by_contra hne
      have := (hconnected c).mpr (.inr hne)
      rw [hconnecting c hc] at this
      exact this

lemma Connections.serverStep {a : ClientInstance.Action} (h : Connections s)
    (hstep : ServerStep cfg isFromServerToClient s a s')
    (he : ClientInstance.Exchanged N s.server a s'.server) : Connections s' := by
  obtain ⟨hconnected, habsent⟩ := h
  have hmem : ∀ c, c ∈ s'.connections ↔ c ∈ s.connections ∧ a ≠ .openChannel c := by
    intro c
    rw [hstep.connections]
    unfold State.serverConnections
    split
    · next i => simp [Finset.mem_erase, and_comm, eq_comm]
    · next hne => exact (and_iff_left fun heq => hne c heq).symm
  have hopen : ∀ c, a = .openChannel c → c ∈ s.connections := by
    rintro c rfl
    simpa [State.serverMay] using hstep.may
  constructor
  · intro c
    have hne : s'.server.chan c ≠ .absent ↔ ¬ (s.server.chan c = .absent ∧ a ≠ .openChannel c) :=
      not_congr (he.absent c)
    rw [hstep.client, hconnected, hmem, hne]
    by_cases hc : a = .openChannel c
    · simp [hc, hopen c hc]
    · simp [hc]
  · intro c hc
    obtain ⟨hc, hne⟩ := (hmem c).mp hc
    exact (he.absent c).mpr ⟨habsent c hc, hne⟩

lemma Inv.clientStep (h : Inv cfg isFromServerToClient s) {a : ClientPortal.Action}
    (hstep : ClientStep cfg isFromServerToClient s a s') : Inv cfg isFromServerToClient s' := by
  have ha := h.client_orderly hstep.may hstep.client hstep.session hstep.toClient
  have hclient := h.client.step ha hstep.client
  have hfault := (Ready.of_reach hclient).order.fault
  have hr := Requested.of_requested hstep.server
  have he := ClientPortal.Exchanged.of_step h.ready hfault ha hstep.client
  have hmove := (ClientPortal.move_of_step h.ready hfault ha hstep.client).of_total h.total_eq
  have hcall : ∀ c r, s.client.call a ≠ .leave c r := by
    intro c r hleave
    obtain rfl := ClientPortal.call_eq_leave hleave
    exact absurd hstep.may nofun
  refine ⟨hclient, hr.reach _ h.server, ?_, h.messages.clientStep hstep he hr,
    h.connections.clientStep hstep he hr ?_⟩
  · have hlinked := h.linked
    have hsession := hstep.session
    cases isFromServerToClient with
    | true =>
      have hlinked' := hlinked.moveDestination hmove hcall hsession
      rwa [show s'.side true .source = s.side true .source from hr.side]
    | false =>
      have hlinked' := hlinked.moveSource hmove hcall hsession
      rwa [show s'.side false .destination = s.side false .destination from hr.side]
  · rintro c rfl
    have hclient := hstep.client
    unfold ClientPortal.State.step at hclient
    rw [if_neg (not_not.mpr h.ready.order.fault)] at hclient
    replace hclient : s.client.connected c true = some s'.client := hclient
    by_contra hpc
    rw [ClientPortal.State.connected, if_neg hpc] at hclient
    cases hclient

lemma Inv.serverStep (h : Inv cfg isFromServerToClient s) {a : ClientInstance.Action}
    (hstep : ServerStep cfg isFromServerToClient s a s') : Inv cfg isFromServerToClient s' := by
  have ha := h.server_orderly hstep.may hstep.server hstep.session
  have hserver := h.server.step ha hstep.server
  have hfault := (ClientInstance.InOrder.of_reach hserver).fault
  have he := ClientInstance.Exchanged.of_step h.inOrder ha hstep.server
  have hmove := ClientInstance.move_of_step h.inOrder hfault ha hstep.server
  have hcall : ∀ c r, s.server.call a ≠ .leave c r := by
    intro c r hleave
    obtain rfl := ClientInstance.call_eq_leave hleave
    exact absurd hstep.may nofun
  have hrequest : a ≠ .sendRequest := by
    rintro rfl
    exact absurd hstep.may nofun
  have hside : s'.client.side = s.client.side := by rw [hstep.client]
  refine ⟨hstep.client ▸ h.client, hserver, ?_, h.messages.serverStep hstep he hrequest,
    h.connections.serverStep hstep he⟩
  have hlinked := h.linked
  have hsession := hstep.session
  cases isFromServerToClient with
  | true =>
    have hlinked' := hlinked.moveSource hmove hcall hsession
    rwa [show s'.side true .destination = s.side true .destination from hside]
  | false =>
    have hlinked' := hlinked.moveDestination hmove hcall hsession
    rwa [show s'.side false .source = s.side false .source from hside]

/-! ### Steps of the transfers -/

/-- Where a channel is that has left its loop. -/
def leftPhase : TransferKind → Phase
  | .source => .behind
  | .destination => .signalling

lemma Move.left {v v' : Side} {kind : TransferKind} {c : ℕ}
    (h : Move N v kind (.leave c true) v') : v' = v.setPhase c (leftPhase kind) := by
  cases h <;> rfl

/-- A step of a transfer in which no thread leaves its loop. -/
lemma Inv.inside (h : Inv cfg isFromServerToClient s) {t : Session.State F N}
    (hlinked : Linked cfg t (s.side isFromServerToClient .source)
      (s.side isFromServerToClient .destination)) :
    Inv cfg isFromServerToClient { s with session := t } where
  client := h.client
  server := h.server
  linked := hlinked
  messages := ⟨h.messages.toServer, h.messages.toClient, h.messages.serverLe, h.messages.clientLe,
    h.messages.request, h.messages.total⟩
  connections := ⟨h.connections.connected, h.connections.absent⟩

/-- A thread of the client leaves its loop. -/
lemma Inv.clientLeft (h : Inv cfg isFromServerToClient s) {t : Session.State F N} {c : ℕ}
    {client : ClientPortal.State}
    (hclient : s.client.step isFromServerToClient (.transferred c true) = some client)
    (hlinked : client.side = s.client.side.setPhase c (leftPhase (kindOf isFromServerToClient)) →
      Linked cfg t ({ s with client := client }.side isFromServerToClient .source)
        ({ s with client := client }.side isFromServerToClient .destination)) :
    Inv cfg isFromServerToClient { s with session := t, client := client } := by
  have ha : ClientPortal.Orderly s.client (.transferred c true) := rfl
  have hreach := h.client.step ha hclient
  have hfault := (Ready.of_reach hreach).order.fault
  have hmove := (ClientPortal.move_of_step h.ready hfault ha hclient).of_total h.total_eq
  have he := ClientPortal.Exchanged.of_step h.ready hfault ha hclient
  have hsent : client.portal.sent = s.client.portal.sent := he.sent
  have hreceived : client.portal.received = s.client.portal.received := he.received
  have htotal : client.total = s.client.total := he.total
  have hconnected : ∀ i, (client.chan i).Connected ↔ (s.client.chan i).Connected := fun i =>
    (he.connected i).trans (or_iff_left nofun)
  obtain ⟨htoServer, htoClient, hserverLe, hclientLe, hrequest, htotal'⟩ := h.messages
  refine ⟨hreach, h.server, hlinked hmove.left, ⟨?_, ?_, ?_, ?_, ?_, ?_⟩,
    ⟨fun i => (hconnected i).trans (h.connections.connected i), h.connections.absent⟩⟩
  · rw [hsent]
    exact htoServer
  · rw [hreceived]
    exact htoClient
  · rw [hsent]
    exact hserverLe
  · rw [hreceived]
    exact hclientLe
  · rw [hsent]
    exact hrequest
  · rw [htotal, hreceived]
    exact htotal'

/-- A thread of the instance leaves its loop. -/
lemma Inv.serverLeft (h : Inv cfg isFromServerToClient s) {t : Session.State F N} {c : ℕ}
    {server : ClientInstance.State} (hserver : s.server.step N (.transferred c true) = some server)
    (hlinked : server.side = s.server.side.setPhase c (leftPhase (kindOf !isFromServerToClient)) →
      Linked cfg t ({ s with server := server }.side isFromServerToClient .source)
        ({ s with server := server }.side isFromServerToClient .destination)) :
    Inv cfg isFromServerToClient { s with session := t, server := server } := by
  have ha : ClientInstance.Orderly N (kindOf !isFromServerToClient) s.server
    (.transferred c true) := rfl
  have hreach := h.server.step ha hserver
  have hfault := (ClientInstance.InOrder.of_reach hreach).fault
  have hmove := ClientInstance.move_of_step h.inOrder hfault ha hserver
  have he := ClientInstance.Exchanged.of_step h.inOrder ha hserver
  have hsent : server.portal.sent = s.server.portal.sent := he.sent
  have hreceived : server.portal.received = s.server.portal.received := he.received
  have hrequestSent : server.requestSent = s.server.requestSent := by simpa using he.request
  have habsent : ∀ i, server.chan i = .absent ↔ s.server.chan i = .absent := fun i =>
    (he.absent i).trans (and_iff_left nofun)
  obtain ⟨htoServer, htoClient, hserverLe, hclientLe, hrequest, htotal⟩ := h.messages
  refine ⟨h.client, hreach, hlinked hmove.left, ⟨?_, ?_, ?_, ?_, ?_, htotal⟩, ⟨fun i => ?_,
    fun i hi => (habsent i).mpr (h.connections.absent i hi)⟩⟩
  · rw [hreceived]
    exact htoServer
  · rw [hsent]
    exact htoClient
  · rw [hreceived]
    exact hserverLe
  · rw [hsent]
    exact hclientLe
  · rw [hrequestSent]
    exact hrequest
  · exact (h.connections.connected i).trans (or_congr_right (not_congr (habsent i).symm))

lemma Inv.transferStep (h : Inv cfg isFromServerToClient s) {a : Session.Action N}
    (hstep : s.transferStep cfg isFromServerToClient a = some s') :
    Inv cfg isFromServerToClient s' := by
  unfold State.transferStep at hstep
  split_ifs at hstep with hmay
  obtain ⟨session, hsession, hstep⟩ := Option.bind_eq_some_iff.mp hstep
  have hmoved := h.linked.moved hmay hsession
  cases hresult : loopResult session a with
  | none =>
    rw [hresult] at hmoved hstep
    cases hstep
    cases hmoved with
    | inside hlinked => exact h.inside hlinked
  | some result =>
    rw [hresult] at hmoved hstep
    cases hmoved with
    | @source c _ hlinked =>
      cases isFromServerToClient with
      | true =>
        obtain ⟨server, hserver, rfl⟩ := Option.map_eq_some_iff.mp hstep
        refine h.serverLeft hserver fun hside => ?_
        show Linked cfg session server.side s.client.side
        rw [hside]
        exact hlinked
      | false =>
        obtain ⟨client, hclient, rfl⟩ := Option.map_eq_some_iff.mp hstep
        refine h.clientLeft hclient fun hside => ?_
        show Linked cfg session client.side s.server.side
        rw [hside]
        exact hlinked
    | @destination c _ hlinked =>
      cases isFromServerToClient with
      | true =>
        obtain ⟨client, hclient, rfl⟩ := Option.map_eq_some_iff.mp hstep
        refine h.clientLeft hclient fun hside => ?_
        show Linked cfg session s.server.side client.side
        rw [hside]
        exact hlinked
      | false =>
        obtain ⟨server, hserver, rfl⟩ := Option.map_eq_some_iff.mp hstep
        refine h.serverLeft hserver fun hside => ?_
        show Linked cfg session s.client.side server.side
        rw [hside]
        exact hlinked

/-! ### Runs -/

/-- The side of a process that has not begun. -/
def Side.start : Side where
  phase _ := .before
  portal := .before
  gate := {}
  disposal := .before
  chanOpen _ := true
  portalOpen := true

lemma Side.settled_start : Side.start.Settled := by
  rintro (h | h | ⟨c, h⟩)
  · exact absurd rfl h
  · cases h
  · cases h

lemma Linked.start {t : Session.State F N} (ht : (Session.machine cfg).init t) :
    Linked cfg t Side.start Side.start := by
  have hreach : (Session.machine cfg).ReachIf Session.Smooth t := .init ht
  obtain ⟨source, destination, ⟨blockSize, -, rfl⟩, hdestination, rfl⟩ := ht
  have hinit := Destination.Initial.of_init hdestination
  have hsource : ∀ r, (Source.atFile 0 : Source.Pc F) ≠ .returned r := by
    intro r
    unfold Source.atFile
    split_ifs <;> simp
  refine ⟨hreach, ?_, ?_⟩
  · exact ⟨by simp [Side.start], by simp [Side.start], fun _ _ => hsource, by simp [Side.start],
      by simp [Side.start], rfl, by simp [Side.start], fun _ => rfl, by simp [Side.start],
      Side.settled_start⟩
  · refine ⟨by simp [Side.start], fun c r => ?_, rfl, .inl ⟨rfl, hinit.gate_eq, fun _ => rfl⟩, rfl,
      hinit.disposer_eq, Side.settled_start⟩
    rw [hinit.chan_eq]
    simp

lemma Inv.init {server : ClientInstance.State} {t : Session.State F N}
    (hserver : (ClientInstance.machine N).init server) (ht : (Session.machine cfg).init t) :
    Inv cfg isFromServerToClient { server := server, session := t } := by
  have hreach : (ClientInstance.machine N).ReachIf
    (ClientInstance.Orderly N (kindOf !isFromServerToClient)) server := .init hserver
  obtain ⟨-, -, rfl⟩ := hserver
  have hside : ∀ kind, ({ server := ClientInstance.start N, session := t } : State F N).side
      isFromServerToClient kind = Side.start := by
    intro kind
    unfold State.side
    split_ifs <;> rfl
  refine ⟨.init rfl, hreach, ?_, ⟨rfl, rfl, le_rfl, le_rfl, ?_, ?_⟩, ⟨?_, ?_⟩⟩
  · rw [hside, hside]
    exact .start ht
  · simp [ClientInstance.start, ClientPortal.PortalPc.sent]
  · simp [ClientPortal.PortalPc.received]
  · simp [ClientInstance.start, ClientPortal.ChannelPc.Connected]
  · simp

lemma Inv.of_reach (h : (machine cfg isFromServerToClient).Reach s) :
    Inv cfg isFromServerToClient s := by
  refine h.invariant (fun s hs => ?_) fun s a s' _ hs _ hstep => ?_
  · obtain ⟨server, session, hserver, hsession, rfl⟩ := hs
    exact .init hserver hsession
  · cases a with
    | client a => exact hs.clientStep (.of_step hstep)
    | server a => exact hs.serverStep (.of_step hstep)
    | transfer a => exact hs.transferStep hstep

/-- Once the client has stored its result, every file is a copy. -/
lemma Inv.copied (h : Inv cfg isFromServerToClient s) (hstored : s.client.portal.Stored)
    (n : Fin F) : Session.Copied cfg s.session n := by
  have hbehind : s.client.side.portal = .behind := by
    rcases hstored with hpc | hpc | hpc <;>
      simp [ClientPortal.State.side, hpc, ClientPortal.PortalPc.phase]
  exact (h.linked.inOrder.copied (h.returned (.inl hbehind)).2).2 n

end Protocol

end Xcp
