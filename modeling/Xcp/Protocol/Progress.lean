import Xcp.Protocol.Safety

/-!
# Every interleaving ends with success

In a state of the protocol in which no thread can go on, the client has stored that the transfer has
succeeded. What a thread waits for is always on its way: a message is sent by a portal thread that
goes on until it waits itself, the gates are set by channels that go on, and the loops of the
transfers go on until they have returned.
-/

namespace Xcp

open ClientInstance (TransferKind)

open ClientPortal (kindOf Ready)

namespace Protocol

variable {F N : ℕ} {cfg : Session.Config F N} {isFromServerToClient : Bool} {s : State F N}
  {t : Session.State F N} {v w : Side}

/-! ### Steps that are taken -/

/-- The client cannot take a step whose parts can all be taken. -/
lemma not_terminal_client (hT : (machine cfg isFromServerToClient).Terminal s)
    {a : ClientPortal.Action} (hmay : s.clientMay isFromServerToClient a = true)
    (hclient : (s.client.step isFromServerToClient a).isSome)
    (hsession : (sync cfg s.session (kindOf isFromServerToClient) (s.client.call a)).isSome)
    (htoClient : (dequeue s.toClient (clientReceives s.client a)).isSome)
    (hserver : (s.requested a).isSome) : False := by
  obtain ⟨client, hclient⟩ := Option.isSome_iff_exists.mp hclient
  obtain ⟨session, hsession⟩ := Option.isSome_iff_exists.mp hsession
  obtain ⟨toClient, htoClient⟩ := Option.isSome_iff_exists.mp htoClient
  obtain ⟨server, hserver⟩ := Option.isSome_iff_exists.mp hserver
  have hnone : s.clientStep cfg isFromServerToClient a = none := hT (.client a)
  simp [State.clientStep, hmay, hclient, hsession, htoClient, hserver] at hnone

/-- The instance cannot take a step whose parts can all be taken. -/
lemma not_terminal_server (hT : (machine cfg isFromServerToClient).Terminal s)
    (hmain : s.client.main ≠ .init) {a : ClientInstance.Action}
    (hmay : s.serverMay isFromServerToClient a = true) (hserver : (s.server.step N a).isSome)
    (hsession : (sync cfg s.session (kindOf !isFromServerToClient) (s.server.call a)).isSome)
    (htoServer : (dequeue s.toServer (serverReceives s.server a)).isSome) : False := by
  obtain ⟨server, hserver⟩ := Option.isSome_iff_exists.mp hserver
  obtain ⟨session, hsession⟩ := Option.isSome_iff_exists.mp hsession
  obtain ⟨toServer, htoServer⟩ := Option.isSome_iff_exists.mp htoServer
  have hnone : s.serverStep cfg isFromServerToClient a = none := hT (.server a)
  simp [State.serverStep, hmain, hmay, hserver, hsession, htoServer] at hnone

lemma sync_none (kind : TransferKind) : (sync cfg t kind .none).isSome := by
  cases kind <;> rfl

lemma dequeue_none {α : Type} [DecidableEq α] (queue : List α) : (dequeue queue none).isSome := rfl

lemma requested_of_ne {a : ClientPortal.Action} (h : clientSends s.client a ≠ some .request) :
    (s.requested a).isSome := by
  rw [State.requested, if_neg h]
  rfl

lemma Inv.client_step (h : Inv cfg isFromServerToClient s) (a : ClientPortal.Action) :
    s.client.step isFromServerToClient a =
      match a with
      | .init r               => s.client.init r
      | .main                 => s.client.mainStep
      | .signal               => some { s.client with exitRequired := true }
      | .portal               => s.client.portalStep isFromServerToClient
      | .information total    => s.client.information total
      | .portalOp ok          => s.client.portalOp isFromServerToClient ok
      | .initInfo ok          => s.client.initInfo ok
      | .channel c            => s.client.channelStep c
      | .connected c ok       => s.client.connected c ok
      | .transferred c result => s.client.transferred isFromServerToClient c result
      | .dispose              => s.client.disposeStep :=
  if_neg (not_not.mpr h.ready.order.fault)

lemma Inv.server_step (h : Inv cfg isFromServerToClient s) (a : ClientInstance.Action) :
    s.server.step N a =
      match a with
      | .portal               => s.server.portalStep
      | .portalOp ok          => s.server.portalOp ok
      | .create r             => s.server.create r
      | .initialise r         => s.server.initialise N r
      | .channel c            => s.server.channelStep c
      | .loseChannel c        => s.server.loseChannel c
      | .transferred c result => s.server.transferred c result
      | .startDispose         =>
        if s.server.disposer = .idle then some s.server.startDispose else none
      | .dispose              => s.server.disposeStep
      | .openChannel _ | .sendRequest | .close => s.server.clientStep a :=
  if_neg (not_not.mpr h.inOrder.fault)

/-- The client has begun. -/
lemma Inv.begun (h : Inv cfg isFromServerToClient s)
    (hT : (machine cfg isFromServerToClient).Terminal s) : s.client.main ≠ .init := by
  intro hmain
  refine not_terminal_client hT (a := .init .connected) rfl ?_ (sync_none _) (dequeue_none _)
    (requested_of_ne (by simp [clientSends]))
  rw [h.client_step]
  simp [ClientPortal.State.init, hmain]

/-- The portal thread of the client waits. -/
lemma Inv.client_portal (h : Inv cfg isFromServerToClient s)
    (hT : (machine cfg isFromServerToClient).Terminal s) (hpc : s.client.portal ≠ .waitFinished) :
    s.client.portalStep isFromServerToClient = none := by
  by_contra hsome
  have hcall : s.client.call .portal = .none := if_neg hpc
  refine not_terminal_client hT (a := .portal) rfl ?_ (hcall ▸ sync_none _) (dequeue_none _)
    (requested_of_ne (by simp [clientSends]))
  rw [h.client_step]
  exact Option.isSome_iff_ne_none.mpr hsome

/-- The portal thread of the instance waits. -/
lemma Inv.server_portal (h : Inv cfg isFromServerToClient s)
    (hT : (machine cfg isFromServerToClient).Terminal s) (hpc : s.server.portal ≠ .waitFinished) :
    s.server.portalStep = none := by
  by_contra hsome
  have hcall : s.server.call .portal = .none := if_neg hpc
  refine not_terminal_server hT (h.begun hT) (a := .portal) rfl ?_ (hcall ▸ sync_none _)
    (dequeue_none _)
  rw [h.server_step]
  exact Option.isSome_iff_ne_none.mpr hsome

/-! ### Messages -/

/-- A client that is in an operation waits for a message that the server has not sent. -/
lemma Inv.client_inside (h : Inv cfg isFromServerToClient s)
    (hT : (machine cfg isFromServerToClient).Terminal s) {op : ClientPortal.SocketOp}
    (hpc : s.client.portal = .inside op) :
    op ≠ .sendRequest ∧ s.server.portal.sent = s.client.portal.received := by
  have hopen := (h.portals_open (.inl (by rw [hpc]; exact id))).1
  have hmessages := h.messages.toClient
  have hle := h.messages.clientLe
  have htake : ∀ m, (serverMessages N)[s.client.portal.received]? = some m →
      s.client.portal.received < s.server.portal.sent → (dequeue s.toClient (some m)).isSome := by
    intro m hm hlt
    rw [hmessages, dequeue_inFlight hm hlt]
    rfl
  have hcall : ∀ ok, s.client.call (.portalOp ok) = .none := fun ok => if_neg (by simp [hpc])
  have hstep : op ≠ .recvInformation →
      (s.client.step isFromServerToClient (.portalOp true)).isSome := by
    intro hop
    rw [h.client_step]
    cases op <;> simp_all [ClientPortal.State.portalOp]
  cases op with
  | sendRequest =>
    refine (not_terminal_client hT (a := .portalOp true) rfl (hstep (by simp))
      (hcall _ ▸ sync_none _) ?_ ?_).elim
    · simp [clientReceives, hpc, dequeue]
    · have hpeer := h.inOrder.course.peer
      have hfault := h.inOrder.fault
      simp [State.requested, clientSends, hpc, ClientInstance.State.step, hfault,
        ClientInstance.State.clientStep, hpeer]
  | recvVersion =>
    refine ⟨by simp, le_antisymm (not_lt.mp fun hlt => ?_) hle⟩
    refine not_terminal_client hT (a := .portalOp true) rfl (hstep (by simp))
      (hcall _ ▸ sync_none _) ?_ (requested_of_ne (by simp [clientSends, hpc]))
    have hreceives : clientReceives s.client (.portalOp true) = some .version := by
      simp [clientReceives, hpc]
    rw [hreceives]
    exact htake _ (by rw [hpc]; rfl) hlt
  | recvInformation =>
    refine ⟨by simp, le_antisymm (not_lt.mp fun hlt => ?_) hle⟩
    refine not_terminal_client hT (a := .information N) rfl ?_ (sync_none _)
      (htake _ (by rw [hpc]; rfl) hlt) (requested_of_ne (by simp [clientSends]))
    have hvalid : N < 2 ^ 64 := h.inOrder.lt.trans (by decide)
    rw [h.client_step]
    simpa [ClientPortal.State.information, hpc, hopen] using hvalid
  | recvResponse =>
    refine ⟨by simp, le_antisymm (not_lt.mp fun hlt => ?_) hle⟩
    refine not_terminal_client hT (a := .portalOp true) rfl (hstep (by simp))
      (hcall _ ▸ sync_none _) ?_ (requested_of_ne (by simp [clientSends, hpc]))
    have hreceives : clientReceives s.client (.portalOp true) = some .response := by
      simp [clientReceives, hpc]
    rw [hreceives]
    exact htake _ (by rw [hpc]; rfl) hlt

/-- An instance waits for the request, or its portal thread is behind it. -/
lemma Inv.server_cases (h : Inv cfg isFromServerToClient s)
    (hT : (machine cfg isFromServerToClient).Terminal s) :
    s.server.portal = .inside .recvRequest ∧ s.client.portal.sent ≤ 1 ∨
      s.server.portal = .waitAll ∨ s.server.portal = .waitFinished ∨
      s.server.portal = .exchange ∨ s.server.portal = .done := by
  have hbegun := h.begun hT
  have hanswers := h.inOrder.course.answers
  have hquiet : ∀ a, s.serverMay isFromServerToClient a = true → (s.server.step N a).isSome →
      s.server.call a = .none → (dequeue s.toServer (serverReceives s.server a)).isSome → False :=
    fun a hmay hstep hcall htoServer =>
      not_terminal_server hT hbegun hmay hstep (hcall ▸ sync_none _) htoServer
  have hportal := h.server_portal hT
  cases hpc : s.server.portal with
  | waitAll | waitFinished | exchange | done => simp
  | use op =>
    rw [hpc] at hportal
    simp [ClientInstance.State.portalStep, hpc] at hportal
    split_ifs at hportal
  | check | signalReady | setReady | exit =>
    rw [hpc] at hportal
    simp [ClientInstance.State.portalStep, hpc] at hportal
  | invoke =>
    rw [hpc] at hportal
    simp only [ClientInstance.State.portalStep, hpc] at hportal
    exfalso
    cases htransfer : s.server.transfer with
    | none => simp [htransfer] at hportal
    | some kind =>
      simp only [htransfer] at hportal
      have := hportal (by simp)
      split_ifs at this
  | create =>
    refine (hquiet (.create (.created (kindOf !isFromServerToClient))) (by simp [State.serverMay])
      ?_ rfl (dequeue_none _)).elim
    rw [h.server_step]
    simp [ClientInstance.State.create, hpc]
  | created =>
    refine (hquiet (.initialise .ok) (by simp [State.serverMay]) ?_ rfl (dequeue_none _)).elim
    rw [h.server_step]
    simp only [ClientInstance.State.initialise, hpc]
    cases s.server.transfer with
    | none => rfl
    | some kind => cases kind <;> rfl
  | inside op =>
    have hbefore : ¬ s.server.portal.PastReady := by
      rw [hpc]
      rintro (h | h | h | h) <;> cases h
    have hopen := (h.portals_open (.inr ⟨hbefore, by simp [hpc]⟩)).2
    have hsent : 1 ≤ s.client.portal.sent := by
      have habsent := mt h.ready.order.course.absent hbegun
      cases hclient : s.client.portal with
      | absent => exact absurd hclient habsent
      | use op | inside op => cases op <;> simp [ClientPortal.PortalPc.sent]
      | _ => simp [ClientPortal.PortalPc.sent]
    have htake : ∀ m, clientMessages[s.server.portal.received]? = some m →
        s.server.portal.received < s.client.portal.sent →
        (dequeue s.toServer (some m)).isSome := by
      intro m hm hlt
      rw [h.messages.toServer, dequeue_inFlight hm hlt]
      rfl
    have hgo : (op = .recvRequest → s.server.requestSent = true) →
        (dequeue s.toServer (serverReceives s.server (.portalOp true))).isSome → False := by
      intro hrequest hreceives
      refine hquiet (.portalOp true) (by simp [State.serverMay]) ?_ (if_neg (by simp [hpc]))
        hreceives
      rw [h.server_step]
      simp only [ClientInstance.State.portalOp, hpc, if_pos, if_pos (And.intro hopen hrequest)]
      rfl
    cases op with
    | sendErrorResponse => exact absurd hpc hanswers.2
    | sendVersion | sendInformation | sendResponse =>
      refine (hgo (by simp) ?_).elim
      simp [serverReceives, hpc, dequeue]
    | recvVersion =>
      refine (hgo (by simp) ?_).elim
      have hreceives : serverReceives s.server (.portalOp true) = some .versions := by
        simp [serverReceives, hpc]
      rw [hreceives]
      exact htake _ (by rw [hpc]; rfl) (by rw [hpc]; exact hsent)
    | recvRequest =>
      refine .inl ⟨rfl, not_lt.mp fun hlt => ?_⟩
      refine hgo (fun _ => h.messages.request.mpr hlt) ?_
      have hreceives : serverReceives s.server (.portalOp true) = some .request := by
        simp [serverReceives, hpc]
      rw [hreceives]
      exact htake _ (by rw [hpc]; rfl) (by rw [hpc]; exact hlt)

/-! ### Loops -/

/-- The gate of a destination is signalled and set by what the transfer does. -/
lemma Linked.run_isSome (h : Linked cfg t v w) {c : ℕ} (kind : TransferKind)
    (hpc : w.phase c = .signalling ∨ w.phase c = .setting) :
    (sync cfg t kind (.signal c)).isSome ∧ (sync cfg t kind (.set c)).isSome := by
  have hc : c < N := h.destination.range c (by rcases hpc with hpc | hpc <;> simp [hpc])
  have habort := h.inOrder.inv.aborted
  have hrun : (t.step cfg (.run ⟨c, hc⟩)).isSome := by
    have hchan := h.destination.chan ⟨c, hc⟩
    rcases hpc with hpc | hpc <;> simp only [hpc, Phase.Channel] at hchan <;>
      simp [Session.State.step, Destination.State.step, habort, Destination.State.runChannel, hchan]
  cases kind <;> simp only [sync, dif_pos hc, hrun, and_self]

/-- A thread of the client that is in its loop can leave it. -/
lemma Inv.client_leaves (h : Inv cfg isFromServerToClient s) {c : ℕ}
    (hpc : s.client.side.phase c = .inside) (hopen : s.client.chanOpen c = true) :
    (s.client.step isFromServerToClient (.transferred c true)).isSome := by
  have htransferring : s.client.chan c = .transferring := by
    cases hchan : s.client.chan c with
    | transferring => rfl
    | _ => simp [ClientPortal.State.side, hchan, ClientPortal.ChannelPc.phase] at hpc
  rw [h.client_step]
  simp [ClientPortal.State.transferred, htransferring, hopen]

/-- A thread of the instance that is in its loop can leave it. -/
lemma Inv.server_leaves (h : Inv cfg isFromServerToClient s) {c : ℕ}
    (hpc : s.server.side.phase c = .inside) (hopen : s.server.chanOpen c = true) :
    (s.server.step N (.transferred c true)).isSome := by
  rw [h.server_step]
  cases hchan : s.server.chan c with
  | transferring kind => simp [ClientInstance.State.transferred, hchan, hopen]
  | _ => simp [ClientInstance.State.side, hchan, ClientInstance.ChannelPc.phase] at hpc

/-- The transfers take no step that their processes admit. -/
lemma Inv.transfer_stops (h : Inv cfg isFromServerToClient s)
    (hT : (machine cfg isFromServerToClient).Terminal s) {a : Session.Action N}
    (hmay : transferMay s.session (s.side isFromServerToClient .source)
      (s.side isFromServerToClient .destination) a = true) : s.session.step cfg a = none := by
  by_contra hsome
  obtain ⟨t, ht⟩ := Option.ne_none_iff_exists'.mp hsome
  have hnone : s.transferStep cfg isFromServerToClient a = none := hT (.transfer a)
  unfold State.transferStep at hnone
  rw [if_pos hmay, ht, Option.bind_eq_bind, Option.bind_some] at hnone
  have hmoved := h.linked.moved hmay ht
  have hinside := fun c hc => h.linked.inside_open (c := c) hc
  have hsettled := h.settled
  cases hresult : loopResult t a with
  | none => simp [hresult] at hnone
  | some result =>
    rw [hresult] at hmoved hnone
    cases hmoved with
    | @source c hpc =>
      have hopen := (hinside c c.isLt (.inl (by simp [hpc]))).1
      cases isFromServerToClient with
      | true =>
        have hleaves := h.server_leaves hpc (hsettled.2.chanOpen hopen c)
        simp [State.leave, kindOf, Option.isSome_iff_ne_none.mp hleaves] at hnone
      | false =>
        have hleaves := h.client_leaves hpc (hsettled.1.chanOpen hopen c)
        simp [State.leave, kindOf, Option.isSome_iff_ne_none.mp hleaves] at hnone
    | @destination c hpc =>
      have hopen := (hinside c c.isLt (.inr (by simp [hpc]))).2
      cases isFromServerToClient with
      | true =>
        have hleaves := h.client_leaves hpc (hsettled.1.chanOpen hopen c)
        simp [State.leave, kindOf, Option.isSome_iff_ne_none.mp hleaves] at hnone
      | false =>
        have hleaves := h.server_leaves hpc (hsettled.2.chanOpen hopen c)
        simp [State.leave, kindOf, Option.isSome_iff_ne_none.mp hleaves] at hnone

/-- No thread of the source is in its loop. -/
lemma Inv.source_stops (h : Inv cfg isFromServerToClient s)
    (hT : (machine cfg isFromServerToClient).Terminal s) (c : Fin N) :
    (s.side isFromServerToClient .source).phase c ≠ .inside := by
  intro hpc
  have hlinked := h.linked
  have hbehind := (hlinked.inside_open c.isLt (.inl (by simp [hpc]))).1
  have hopen := hlinked.source.settled.chanOpen hbehind c
  obtain ⟨a, ha, hstep⟩ := hlinked.inOrder.source_goes_on (hlinked.source.loop c (by simp [hpc]))
  have hmay : transferMay s.session (s.side isFromServerToClient .source)
      (s.side isFromServerToClient .destination) (.source a) = true := by
    rcases ha with rfl | rfl | rfl | rfl <;> simp [transferMay, hpc, hopen]
  rw [h.transfer_stops hT hmay] at hstep
  cases hstep

/-- No thread of the destination is in its loop whose source has left its own. -/
lemma Inv.destination_stops (h : Inv cfg isFromServerToClient s)
    (hT : (machine cfg isFromServerToClient).Terminal s) {c : Fin N}
    (hsource : (s.side isFromServerToClient .source).phase c = .behind) :
    (s.side isFromServerToClient .destination).phase c ≠ .inside := by
  intro hpc
  have hlinked := h.linked
  have hbehind := (hlinked.inside_open c.isLt (.inr (by simp [hpc]))).2
  have hopen := hlinked.destination.settled.chanOpen hbehind c
  have hloop := hlinked.destination.chan c
  simp only [hpc, Phase.Channel] at hloop
  have hstep := hlinked.inOrder.destination_goes_on hlinked.reach
    (hlinked.source.left c hsource) hloop
  rcases hstep with hstep | hstep
  · rw [h.transfer_stops hT (by simp [transferMay, hpc, hopen])] at hstep
    cases hstep
  · rw [h.transfer_stops hT (by simp [transferMay, hpc])] at hstep
    cases hstep

/-! ### Channels -/

/-- The thread of a channel of the client takes no step that its transfer admits. -/
lemma Inv.client_channel (h : Inv cfg isFromServerToClient s)
    (hT : (machine cfg isFromServerToClient).Terminal s) {c : ℕ}
    (hsync : (sync cfg s.session (kindOf isFromServerToClient)
      (s.client.call (.channel c))).isSome) : s.client.channelStep c = none := by
  by_contra hsome
  refine not_terminal_client hT (a := .channel c) rfl ?_ hsync (dequeue_none _)
    (requested_of_ne (by simp [clientSends]))
  rw [h.client_step]
  exact Option.isSome_iff_ne_none.mpr hsome

/-- A channel of the client has ended, or waits in its loop or for the portal thread. -/
lemma Inv.client_chan (h : Inv cfg isFromServerToClient s)
    (hT : (machine cfg isFromServerToClient).Terminal s) {c : ℕ}
    (hchan : s.client.chan c ≠ .absent) :
    s.client.chan c = .waitReady ∧ s.client.gateClientPortalReady.isSet = false ∨
      s.client.chan c = .transferring ∨ s.client.chan c = .done := by
  have hquiet : s.client.call (.channel c) = .none → s.client.channelStep c = none :=
    fun hcall => h.client_channel hT (hcall ▸ sync_none _)
  have hdownload : ∀ r, s.client.chan c = .signalFinished r ∨ s.client.chan c = .setFinished r →
      isFromServerToClient = true := by
    intro r hpc
    by_contra hd
    have hupload := (h.ready.order.members.upload (by simpa using hd)).2.2.2.2 c r
    exact hpc.elim hupload.1 hupload.2
  have hlinked := h.linked
  cases hpc : s.client.chan c with
  | absent => exact absurd hpc hchan
  | transferring | done => simp
  | connecting =>
    refine (not_terminal_client hT (a := .connected c true) rfl ?_ (sync_none _) (dequeue_none _)
      (requested_of_ne (by simp [clientSends]))).elim
    rw [h.client_step]
    simp [ClientPortal.State.connected, hpc]
  | signalFinished r =>
    obtain rfl := hdownload r (.inl hpc)
    have hphase : s.client.side.phase c = .signalling := by
      simp [ClientPortal.State.side, hpc, ClientPortal.ChannelPc.phase]
    have hnone := h.client_channel hT (c := c) (by
      simp only [ClientPortal.State.call, hpc]
      exact (hlinked.run_isSome _ (.inl hphase)).1)
    simp [ClientPortal.State.channelStep, hpc] at hnone
  | setFinished r =>
    obtain rfl := hdownload r (.inr hpc)
    have hphase : s.client.side.phase c = .setting := by
      simp [ClientPortal.State.side, hpc, ClientPortal.ChannelPc.phase]
    have hnone := h.client_channel hT (c := c) (by
      simp only [ClientPortal.State.call, hpc]
      exact (hlinked.run_isSome _ (.inr hphase)).2)
    simp [ClientPortal.State.channelStep, hpc] at hnone
  | waitReady =>
    have hnone := hquiet (by simp [ClientPortal.State.call, hpc])
    simpa [ClientPortal.State.channelStep, hpc] using hnone
  | check | storeStatus | exit =>
    have hnone := hquiet (by simp [ClientPortal.State.call, hpc])
    simp [ClientPortal.State.channelStep, hpc] at hnone
  | assertTransfer | invoke =>
    have hnone := hquiet (by simp [ClientPortal.State.call, hpc])
    simp only [ClientPortal.State.channelStep, hpc] at hnone
    split_ifs at hnone

/-- The thread of a channel of the instance takes no step that its transfer admits. -/
lemma Inv.server_channel (h : Inv cfg isFromServerToClient s)
    (hT : (machine cfg isFromServerToClient).Terminal s) {c : ℕ}
    (hsync : (sync cfg s.session (kindOf !isFromServerToClient)
      (s.server.call (.channel c))).isSome) : s.server.channelStep c = none := by
  by_contra hsome
  refine not_terminal_server hT (h.begun hT) (a := .channel c) rfl ?_ hsync (dequeue_none _)
  rw [h.server_step]
  exact Option.isSome_iff_ne_none.mpr hsome

/-- Until the instance is disposed, its locks are free in the end, as their owners go on. -/
lemma Inv.locks_free (h : Inv cfg isFromServerToClient s)
    (hT : (machine cfg isFromServerToClient).Terminal s) (hd : s.server.disposer = .idle) :
    s.server.serial = none ∧ s.server.mutex = none := by
  have hlocks := h.inOrder.inv.locks
  have hquiet : ∀ c, s.server.call (.channel c) = .none → s.server.channelStep c = none :=
    fun c hcall => h.server_channel hT (hcall ▸ sync_none _)
  have hmutex : s.server.mutex = none := by
    cases hm : s.server.mutex with
    | none => rfl
    | some owner =>
      cases owner with
      | disposer =>
        have hstage := hlocks.mutexDisposer.mp hm
        rw [hd] at hstage
        cases hstage
      | channel i =>
        have hpc := (hlocks.mutex i).mpr hm
        have hnone := hquiet i (by simp [ClientInstance.State.call, hpc])
        simp [ClientInstance.State.channelStep, hpc] at hnone
  refine ⟨?_, hmutex⟩
  cases hm : s.server.serial with
  | none => rfl
  | some owner =>
    cases owner with
    | disposer =>
      have hstage := hlocks.serialDisposer.mp hm
      rw [hd] at hstage
      cases hstage
    | channel i =>
      have hpc := (hlocks.serial i).mpr hm
      have hnone := hquiet i (by simp [ClientInstance.State.call, hpc])
      simp only [ClientInstance.State.channelStep, hpc, hmutex, if_true] at hnone
      split_ifs at hnone

/-- A channel of the instance has ended, or waits in its loop or for the portal thread. -/
lemma Inv.server_chan (h : Inv cfg isFromServerToClient s)
    (hT : (machine cfg isFromServerToClient).Terminal s) {c : ℕ}
    (hchan : s.server.chan c ≠ .absent) :
    s.server.chan c = .waitReady ∧ s.server.gatePortalReadyToTransfer.isSet = false ∨
      (∃ kind, s.server.chan c = .transferring kind) ∨ s.server.chan c = .done := by
  have horder := h.inOrder
  have hquiet : s.server.call (.channel c) = .none → s.server.channelStep c = none :=
    fun hcall => h.server_channel hT (hcall ▸ sync_none _)
  have hupload : ∀ r, s.server.chan c = .signalFinished r ∨ s.server.chan c = .setFinished r →
      isFromServerToClient = false := by
    intro r hpc
    have hkind := horder.course.upload c r hpc
    cases isFromServerToClient with
    | true => cases hkind
    | false => rfl
  have hlinked := h.linked
  cases hpc : s.server.chan c with
  | absent => exact absurd hpc hchan
  | rejected => exact absurd hpc (horder.course.accepted c).1
  | lost => exact absurd hpc (horder.course.accepted c).2
  | transferring | done => simp
  | signalFinished r =>
    obtain rfl := hupload r (.inl hpc)
    have hphase : s.server.side.phase c = .signalling := by
      simp [ClientInstance.State.side, hpc, ClientInstance.ChannelPc.phase]
    have hnone := h.server_channel hT (c := c) (by
      simp only [ClientInstance.State.call, hpc]
      exact (hlinked.run_isSome _ (.inl hphase)).1)
    simp [ClientInstance.State.channelStep, hpc] at hnone
  | setFinished r =>
    obtain rfl := hupload r (.inr hpc)
    have hphase : s.server.side.phase c = .setting := by
      simp [ClientInstance.State.side, hpc, ClientInstance.ChannelPc.phase]
    have hnone := h.server_channel hT (c := c) (by
      simp only [ClientInstance.State.call, hpc]
      exact (hlinked.run_isSome _ (.inr hphase)).2)
    simp [ClientInstance.State.channelStep, hpc] at hnone
  | waitReady =>
    have hnone := hquiet (by simp [ClientInstance.State.call, hpc])
    simpa [ClientInstance.State.channelStep, hpc] using hnone
  | acquire =>
    have hidle := (horder.course.idle (c := c) (by simp [hpc]) (by rw [hpc]; exact id)).1
    have hnone := hquiet (by simp [ClientInstance.State.call, hpc])
    simp [ClientInstance.State.channelStep, hpc, (h.locks_free hT hidle).1] at hnone
  | holdsSerial =>
    have hidle := (horder.course.idle (c := c) (by simp [hpc]) (by rw [hpc]; exact id)).1
    have hfree := (h.locks_free hT hidle).1
    rw [(horder.inv.locks.serial c).mp hpc] at hfree
    cases hfree
  | connecting | holdsMutex | signalAll | setAll | check | exit =>
    have hnone := hquiet (by simp [ClientInstance.State.call, hpc])
    simp [ClientInstance.State.channelStep, hpc] at hnone
  | assertTransfer | invoke =>
    have hnone := hquiet (by simp [ClientInstance.State.call, hpc])
    simp only [ClientInstance.State.channelStep, hpc] at hnone
    split at hnone <;> cases hnone

/-- Every channel of a client that has started its channels has been accepted. -/
lemma Inv.accepted (h : Inv cfg isFromServerToClient s)
    (hT : (machine cfg isFromServerToClient).Terminal s)
    (hpc : s.client.portal.PastCreating) {c : ℕ} (hc : c < N) :
    s.client.chan c ≠ .absent ∧ s.server.chan c ≠ .absent := by
  have horder := h.ready.order
  have htotal : s.client.total = N := by
    refine h.total_eq.resolve_left fun hzero => ?_
    have hpos := (horder.course.valid hpc.1).1
    rw [hzero] at hpos
    cases hpos
  have hchan := horder.members.created hpc c (by rw [htotal]; exact hc)
  refine ⟨hchan, ?_⟩
  have hconnected : (s.client.chan c).Connected := by
    rcases h.client_chan hT hchan with ⟨hpc, -⟩ | hpc | hpc <;> rw [hpc] <;> trivial
  refine ((h.connections.connected c).mp hconnected).resolve_left fun hmem => ?_
  have habsent := h.connections.absent c hmem
  have hpeer := h.inOrder.course.peer
  refine not_terminal_server hT (h.begun hT) (a := .openChannel c) (by simp [State.serverMay, hmem])
    ?_ (sync_none _) (dequeue_none _)
  rw [h.server_step]
  simp [ClientInstance.State.clientStep, hpeer, habsent]

/-! ### The portals in the end -/

/-- Once all channels of both processes are in their loops or behind them, they are behind. -/
lemma Inv.all_behind (h : Inv cfg isFromServerToClient s)
    (hT : (machine cfg isFromServerToClient).Terminal s)
    (hsource : ∀ c : Fin N, (s.side isFromServerToClient .source).phase c = .inside ∨
      (s.side isFromServerToClient .source).phase c = .behind)
    (hdestination : ∀ c : Fin N, (s.side isFromServerToClient .destination).phase c = .inside ∨
      (s.side isFromServerToClient .destination).phase c = .behind) :
    ∀ c : Fin N, (s.side isFromServerToClient .destination).phase c = .behind := by
  intro c
  have hbehind := (hsource c).resolve_left (h.source_stops hT c)
  exact (hdestination c).resolve_left (h.destination_stops hT hbehind)

/-- Behind all channels the gate of the destination is set, and its portal thread wakes up. -/
lemma Linked.wake_isSome (h : Linked cfg t v w) (hpos : 0 < N)
    (hbehind : ∀ c : Fin N, w.phase c = .behind) (hpc : w.portal = .waiting) :
    (sync cfg t .destination .wake).isSome ∧ w.gate.isSet = true := by
  have hreturned : ∀ c, t.destination.chan c = .returned true := fun c => by
    simpa only [hbehind c, Phase.Channel] using h.destination.chan c
  have hportal : t.destinationPortal = .wait := by
    rw [h.destination.portal, hpc]
    rfl
  have hopen : t.portalOpen = true :=
    h.destination.portalOpen.trans (h.destination.settled.portalOpen (by simp [hpc]))
  have hset := h.inOrder.completes (h.inOrder.portals.idle hopen) hreturned
  have habort := h.inOrder.inv.aborted
  refine ⟨by simp [sync, Session.State.step, hportal, habort, hset], ?_⟩
  rcases h.destination.gate with ⟨-, -, hbefore⟩ | ⟨-, hgate⟩
  · have hzero := hbehind ⟨0, hpos⟩
    rw [hbefore] at hzero
    cases hzero
  · rw [← hgate]
    exact hset

/-- The portal of a destination that has come to the exchange reports. -/
lemma Linked.send_isSome (h : Linked cfg t v w) (hpc : w.portal = .exchanging) :
    (sync cfg t .destination (.exchange true)).isSome := by
  have hportal : t.destinationPortal = .send := by
    rw [h.destination.portal, hpc]
    rfl
  have hopen : t.portalOpen = true :=
    h.destination.portalOpen.trans (h.destination.settled.portalOpen (by simp [hpc]))
  have habort := h.inOrder.inv.aborted
  simp [sync, Session.State.step, hportal, habort, hopen]

/-- The portal of a source receives what the destination has reported. -/
lemma Linked.recv_isSome (h : Linked cfg t v w) (hpc : v.portal = .exchanging)
    (hreported : w.portal = .behind) : (sync cfg t .source (.exchange true)).isSome := by
  have hsource : t.sourcePortal = .recv := by
    rw [h.source.portal, if_neg (by simp [hpc])]
  have hwire : t.portalWire = [{}] := by
    rw [h.inOrder.reports.portalWire, if_pos ⟨h.reported (.inr hreported), hsource⟩]
  simp [sync, reportsError, hwire, Session.State.step, hsource]

/-- A client at the exchange waits for the transfer of the server. -/
lemma Inv.client_exchange (h : Inv cfg isFromServerToClient s)
    (hT : (machine cfg isFromServerToClient).Terminal s) (hpc : s.client.portal = .exchange)
    (hsync : (sync cfg s.session (kindOf isFromServerToClient) (.exchange true)).isSome) : False := by
  have hopen : s.client.socketOpen = true :=
    h.settled.1.portalOpen (by simp [ClientPortal.State.side, hpc, ClientPortal.PortalPc.phase])
  have hcall : s.client.call (.portalOp true) = .exchange true := if_pos hpc
  refine not_terminal_client hT (a := .portalOp true) rfl ?_ (hcall ▸ hsync) ?_
    (requested_of_ne (by simp [clientSends, hpc]))
  · rw [h.client_step]
    simp [ClientPortal.State.portalOp, hpc, hopen]
  · simp [clientReceives, hpc, dequeue]

/-- An instance at the exchange waits for the transfer of the client. -/
lemma Inv.server_exchange (h : Inv cfg isFromServerToClient s)
    (hT : (machine cfg isFromServerToClient).Terminal s) (hpc : s.server.portal = .exchange)
    (hsync : (sync cfg s.session (kindOf !isFromServerToClient) (.exchange true)).isSome) :
    False := by
  have hopen : s.server.socketOpen = true :=
    h.settled.2.portalOpen (by simp [ClientInstance.State.side, hpc, ClientInstance.PortalPc.phase])
  have hcall : s.server.call (.portalOp true) = .exchange true := if_pos hpc
  refine not_terminal_server hT (h.begun hT) (a := .portalOp true) (by simp [State.serverMay]) ?_
    (hcall ▸ hsync) ?_
  · rw [h.server_step]
    simp [ClientInstance.State.portalOp, hpc, hopen]
  · simp [serverReceives, hpc, dequeue]

/-- The portal thread of a client that downloads wakes up behind its channels. -/
lemma Inv.client_wakes (h : Inv cfg isFromServerToClient s)
    (hT : (machine cfg isFromServerToClient).Terminal s) (hpc : s.client.portal = .waitFinished)
    (hsync : (sync cfg s.session (kindOf isFromServerToClient) .wake).isSome)
    (hset : s.client.gateAllChannelsFinished.isSet = true) : False := by
  have hcall : s.client.call .portal = .wake := if_pos hpc
  refine not_terminal_client hT (a := .portal) rfl ?_ (hcall ▸ hsync) (dequeue_none _)
    (requested_of_ne (by simp [clientSends]))
  rw [h.client_step]
  simp [ClientPortal.State.portalStep, hpc, hset]

/-- The portal thread of an instance that receives an upload wakes up behind its channels. -/
lemma Inv.server_wakes (h : Inv cfg isFromServerToClient s)
    (hT : (machine cfg isFromServerToClient).Terminal s) (hpc : s.server.portal = .waitFinished)
    (hsync : (sync cfg s.session (kindOf !isFromServerToClient) .wake).isSome)
    (hset : s.server.gateAllChannelsFinished.isSet = true) : False := by
  have hcall : s.server.call .portal = .wake := if_pos hpc
  refine not_terminal_server hT (h.begun hT) (a := .portal) rfl ?_ (hcall ▸ hsync)
    (dequeue_none _)
  rw [h.server_step]
  simp [ClientInstance.State.portalStep, hpc, hset]

/-! ### The client in the end -/

/-- Where the portal thread of the client can be in the end. -/
lemma Inv.client_cases (h : Inv cfg isFromServerToClient s)
    (hT : (machine cfg isFromServerToClient).Terminal s) :
    s.client.portal.Stored ∨ (∃ op, s.client.portal = .inside op) ∨
      s.client.portal = .waitFinished ∨ s.client.portal = .exchange := by
  have horder := h.ready.order
  have hportal := h.client_portal hT
  cases hpc : s.client.portal with
  | inside | waitFinished | exchange => simp
  | exit | requireExit | done => exact .inl (by simp [ClientPortal.PortalPc.Stored])
  | absent => exact absurd (horder.course.absent hpc) (h.begun hT)
  | refused k => exact absurd hpc (horder.inv.teardown.refused k).1
  | joining k => exact absurd hpc (horder.inv.teardown.refused k).2
  | setReady =>
    rw [hpc] at hportal
    simp [ClientPortal.State.portalStep, hpc] at hportal
  | initInfo =>
    refine (not_terminal_client hT (a := .initInfo true) rfl ?_ (sync_none _) (dequeue_none _)
      (requested_of_ne (by simp [clientSends]))).elim
    rw [h.client_step]
    simp only [ClientPortal.State.initInfo, hpc, if_true]
    split_ifs <;> rfl
  | _ =>
    rw [hpc] at hportal
    simp only [ClientPortal.State.portalStep, hpc] at hportal
    have hnone := hportal (by simp)
    split_ifs at hnone

/-- The instance does not wait for a channel once the client has opened all of them. -/
lemma Inv.not_waitAll (h : Inv cfg isFromServerToClient s)
    (hT : (machine cfg isFromServerToClient).Terminal s) (hpast : s.client.portal.PastCreating) :
    s.server.portal ≠ .waitAll := by
  intro hpc
  have horder := h.inOrder
  have hunset := h.server_portal hT (by simp [hpc])
  simp only [ClientInstance.State.portalStep, hpc] at hunset
  have hidle : s.server.disposer = .idle := by
    by_contra hd
    have hdone := horder.course.disposer hd
    rw [hpc] at hdone
    cases hdone
  obtain ⟨-, ⟨k, hall, hreceived⟩, -⟩ := horder.idle hidle
  have hsignalled : ∀ c ∈ Finset.range N, (s.server.chan c).SignalledAll := by
    intro c hc
    have hchan := (h.accepted hT hpast (Finset.mem_range.mp hc)).2
    rcases h.server_chan hT hchan with ⟨hpc, -⟩ | ⟨kind, hpc⟩ | hpc
    · exact .inr (.inl hpc)
    · exact .inr (.inr (by rw [hpc]; trivial))
    · exact .inr (.inr (by rw [hpc]; trivial))
  have hle := hall.card_le hsignalled
  rw [Finset.card_range] at hle
  rcases hreceived.isSet.mpr hle with hset | ⟨c, hset⟩
  · rw [if_pos hset] at hunset
    cases hunset
  · rcases h.server_chan hT (c := c) (by simp [hset]) with ⟨hpc, -⟩ | ⟨kind, hpc⟩ | hpc <;>
    · rw [hset] at hpc
      cases hpc

/-- The client does not wait for a message. -/
lemma Inv.not_inside (h : Inv cfg isFromServerToClient s)
    (hT : (machine cfg isFromServerToClient).Terminal s) {op : ClientPortal.SocketOp} :
    s.client.portal ≠ .inside op := by
  intro hpc
  obtain ⟨hop, hsent⟩ := h.client_inside hT hpc
  rw [hpc] at hsent
  cases op with
  | sendRequest => exact hop rfl
  | recvVersion | recvInformation =>
    rcases h.server_cases hT with ⟨hserver, -⟩ | hserver | hserver | hserver | hserver <;>
      simp [hserver, ClientInstance.PortalPc.sent, ClientPortal.PortalPc.received] at hsent
  | recvResponse =>
    rcases h.server_cases hT with ⟨hserver, hle⟩ | hserver | hserver | hserver | hserver
    · simp [hpc, ClientPortal.PortalPc.sent] at hle
    · refine h.not_waitAll hT ?_ hserver
      simp [hpc, ClientPortal.PortalPc.PastCreating, ClientPortal.PortalPc.BeforeChannels]
    all_goals simp [hserver, ClientInstance.PortalPc.sent, ClientPortal.PortalPc.received] at hsent

/-- Once the client has the response, all threads are in their loops or behind them. -/
lemma Inv.all_inside (h : Inv cfg isFromServerToClient s)
    (hT : (machine cfg isFromServerToClient).Terminal s)
    (hpc : s.client.portal = .waitFinished ∨ s.client.portal = .exchange)
    (hserver : s.server.portal = .waitFinished ∨ s.server.portal = .exchange ∨
      s.server.portal = .done) {c : ℕ} (hc : c < N) :
    (s.client.side.phase c = .inside ∨ s.client.side.phase c = .behind) ∧
      (s.server.side.phase c = .inside ∨ s.server.side.phase c = .behind) := by
  have hpast : s.client.portal.PastCreating := by
    rcases hpc with hpc | hpc <;>
      simp [hpc, ClientPortal.PortalPc.PastCreating, ClientPortal.PortalPc.BeforeChannels]
  have hready := h.ready.order.members.ready (by rcases hpc with hpc | hpc <;> rw [hpc] <;> trivial)
  obtain ⟨hclient, hchan⟩ := h.accepted hT hpast hc
  constructor
  · rcases h.client_chan hT hclient with ⟨-, hunset⟩ | hpc | hpc
    · exact absurd (hunset.symm.trans hready) nofun
    · exact .inl (by simp [ClientPortal.State.side, hpc, ClientPortal.ChannelPc.phase])
    · exact .inr (by simp [ClientPortal.State.side, hpc, ClientPortal.ChannelPc.phase])
  · rcases h.server_chan hT hchan with ⟨hwait, hunset⟩ | ⟨kind, hpc⟩ | hpc
    · have horder := h.inOrder
      exfalso
      by_cases hd : s.server.disposer = .idle
      · rcases hserver with hserver | hserver | hserver
        · exact absurd (hunset.symm.trans ((horder.idle hd).waits.set (.inr (.inl hserver)))) nofun
        · exact absurd (hunset.symm.trans ((horder.idle hd).waits.set (.inr (.inr hserver)))) nofun
        · have hleft := horder.course.left (.inr hserver) c hc
          rw [hwait] at hleft
          exact hleft
      · have hleft := horder.course.left (.inr (horder.course.disposer hd)) c hc
        rw [hwait] at hleft
        exact hleft
    · exact .inl (by simp [ClientInstance.State.side, hpc, ClientInstance.ChannelPc.phase])
    · exact .inr (by simp [ClientInstance.State.side, hpc, ClientInstance.ChannelPc.phase])

/-- The client does not wait for the end of the transfers. -/
lemma Inv.not_exchange (h : Inv cfg isFromServerToClient s)
    (hT : (machine cfg isFromServerToClient).Terminal s) :
    ¬ (s.client.portal = .waitFinished ∨ s.client.portal = .exchange) := by
  intro hpc
  have hpos := h.inOrder.pos
  have hlinked := h.linked
  have hreceived : s.client.portal.received = 3 := by rcases hpc with hpc | hpc <;> rw [hpc] <;> rfl
  have hserver : s.server.portal = .waitFinished ∨ s.server.portal = .exchange ∨
      s.server.portal = .done := by
    have hle := h.messages.clientLe
    rw [hreceived] at hle
    rcases h.server_cases hT with ⟨hserver, -⟩ | hserver | hserver
    · simp [hserver, ClientInstance.PortalPc.sent] at hle
    · simp [hserver, ClientInstance.PortalPc.sent] at hle
    · exact hserver
  have hinside := fun c hc => h.all_inside hT hpc hserver (c := c) hc
  cases isFromServerToClient with
  | true =>
    have hbehind := h.all_behind hT (fun c => (hinside c c.isLt).2) fun c => (hinside c c.isLt).1
    rcases hpc with hpc | hpc
    · obtain ⟨hwake, hset⟩ := hlinked.wake_isSome hpos hbehind
        (show s.client.side.portal = .waiting by
          simp [ClientPortal.State.side, hpc, ClientPortal.PortalPc.phase])
      exact h.client_wakes hT hpc hwake hset
    · refine h.client_exchange hT hpc (hlinked.send_isSome ?_)
      show s.client.side.portal = .exchanging
      simp [ClientPortal.State.side, hpc, ClientPortal.PortalPc.phase]
  | false =>
    have hbehind := h.all_behind hT (fun c => (hinside c c.isLt).1) fun c => (hinside c c.isLt).2
    have hexchange : s.client.portal = .exchange :=
      hpc.resolve_left (h.ready.order.members.upload rfl).2.2.1
    rcases hserver with hserver | hserver | hserver
    · obtain ⟨hwake, hset⟩ := hlinked.wake_isSome hpos hbehind
        (show s.server.side.portal = .waiting by
          simp [ClientInstance.State.side, hserver, ClientInstance.PortalPc.phase])
      exact h.server_wakes hT hserver hwake hset
    · refine h.server_exchange hT hserver (hlinked.send_isSome ?_)
      show s.server.side.portal = .exchanging
      simp [ClientInstance.State.side, hserver, ClientInstance.PortalPc.phase]
    · refine h.client_exchange hT hexchange (hlinked.recv_isSome ?_ ?_)
      · show s.client.side.portal = .exchanging
        simp [ClientPortal.State.side, hexchange, ClientPortal.PortalPc.phase]
      · show s.server.side.portal = .behind
        simp [ClientInstance.State.side, hserver, ClientInstance.PortalPc.phase]

/-- In the end the portal thread of the client has stored its result. -/
lemma Inv.stored (h : Inv cfg isFromServerToClient s)
    (hT : (machine cfg isFromServerToClient).Terminal s) : s.client.portal.Stored := by
  rcases h.client_cases hT with hstored | ⟨op, hpc⟩ | hpc
  · exact hstored
  · exact absurd hpc (h.not_inside hT)
  · exact absurd hpc (h.not_exchange hT)

/-! ### The end -/

/-- All threads of both processes have ended. -/
structure Ended (s : State F N) : Prop where
  main : s.client.main = .done
  clientPortal : s.client.portal = .done
  clientChan : ∀ c < N, s.client.chan c = .done
  clientDisposer : s.client.disposer = .done
  serverPortal : s.server.portal = .done
  serverChan : ∀ c < N, s.server.chan c = .done
  serverDisposer : s.server.disposer = .done

/-- No thread is in its loop, and no process disposes its transfer. -/
lemma transferMay_eq_false (hsource : ∀ c, v.phase c ≠ .inside)
    (hdestination : ∀ c, w.phase c ≠ .inside) (hv : v.disposal ≠ .closing)
    (hw : w.disposal ≠ .closing) (a : Session.Action N) : transferMay t v w a = false := by
  cases a with
  | source a => cases a <;> simp [transferMay, hsource, hv]
  | _ => simp [transferMay, hsource, hdestination, hw]

/-- Once all threads have ended, nothing happens any more. -/
lemma Ended.terminal (he : Ended s) (h : Inv cfg isFromServerToClient s) :
    (machine cfg isFromServerToClient).Terminal s := by
  obtain ⟨hmain, hportal, hdone, hdisposer, hportal', hdone', hdisposer'⟩ := he
  have hchan : ∀ c, s.client.chan c = .absent ∨ s.client.chan c = .done := fun c => by
    by_contra hnot
    rw [not_or] at hnot
    have hlt := h.ready.order.inv.threads.total c hnot.1
    exact hnot.2 (hdone c (hlt.trans_le (by rcases h.total_eq with hN | hN <;> simp [hN])))
  have hchan' : ∀ c, s.server.chan c = .absent ∨ s.server.chan c = .done := fun c => by
    by_contra hnot
    rw [not_or] at hnot
    exact hnot.2 (hdone' c (h.inOrder.course.range c hnot.1))
  intro a
  by_contra hsome
  obtain ⟨s', hs'⟩ := Option.ne_none_iff_exists'.mp hsome
  cases a with
  | client a =>
    have hstep := ClientStep.of_step hs'
    have hclient := hstep.client
    rw [h.client_step] at hclient
    cases a with
    | signal | transferred => cases hstep.may
    | channel c | connected c ok =>
      rcases hchan c with hc | hc <;>
        simp [ClientPortal.State.channelStep, ClientPortal.State.connected, hc] at hclient
    | _ =>
      simp [ClientPortal.State.init, ClientPortal.State.mainStep, ClientPortal.State.portalStep,
        ClientPortal.State.information, ClientPortal.State.portalOp, ClientPortal.State.initInfo,
        ClientPortal.State.disposeStep, hmain, hportal, hdisposer] at hclient
  | server a =>
    have hstep := ServerStep.of_step hs'
    have hserver := hstep.server
    rw [h.server_step] at hserver
    cases a with
    | transferred | loseChannel | startDispose | sendRequest | close => cases hstep.may
    | channel c =>
      rcases hchan' c with hc | hc <;> simp [ClientInstance.State.channelStep, hc] at hserver
    | openChannel c =>
      -- a channel that is connected and not accepted is one of those that have ended
      have hmem : c ∈ s.connections := by simpa [State.serverMay] using hstep.may
      have hlt := h.lt_of_connected ((h.connections.connected c).mpr (.inl hmem))
      have habsent := h.connections.absent c hmem
      rw [hdone' c hlt] at habsent
      cases habsent
    | create r =>
      cases r <;> simp [ClientInstance.State.create, hportal'] at hserver
    | _ =>
      simp [ClientInstance.State.portalStep, ClientInstance.State.portalOp,
        ClientInstance.State.initialise, ClientInstance.State.disposeStep, hportal',
        hdisposer'] at hserver
  | transfer a =>
    have hphase : ∀ c, s.client.side.phase c ≠ .inside := fun c => by
      rcases hchan c with hc | hc <;>
        simp [ClientPortal.State.side, hc, ClientPortal.ChannelPc.phase]
    have hphase' : ∀ c, s.server.side.phase c ≠ .inside := fun c => by
      rcases hchan' c with hc | hc <;>
        simp [ClientInstance.State.side, hc, ClientInstance.ChannelPc.phase]
    have hdisposal : s.client.side.disposal ≠ .closing := by
      simp [ClientPortal.State.side, hdisposer, ClientPortal.DisposerPc.disposal]
    have hdisposal' : s.server.side.disposal ≠ .closing := by
      simp [ClientInstance.State.side, hdisposer', ClientInstance.DisposerPc.disposal]
    have hmay : transferMay s.session (s.side isFromServerToClient .source)
        (s.side isFromServerToClient .destination) a = false := by
      cases isFromServerToClient with
      | true => exact transferMay_eq_false hphase' hphase hdisposal' hdisposal a
      | false => exact transferMay_eq_false hphase hphase' hdisposal hdisposal' a
    replace hs' : s.transferStep cfg isFromServerToClient a = some s' := hs'
    rw [State.transferStep, hmay] at hs'
    cases hs'

/-! ### Nothing fails -/

/-- An operation on a socket or a file fails. -/
def Action.Fails : Action N → Prop
  | .client (.portalOp ok) | .client (.connected _ ok) | .server (.portalOp ok) => ok = false
  | .transfer (.sendFailed _ _) | .transfer (.recvFailed _ _) => True
  | _ => False

/-- A connection that could fail because a process has disposed a socket is not used any more. -/
lemma Inv.not_fails (h : Inv cfg isFromServerToClient s) {a : Action N} (ha : a.Fails) :
    s.step cfg isFromServerToClient a = none := by
  by_contra hsome
  obtain ⟨s', hs'⟩ := Option.ne_none_iff_exists'.mp hsome
  cases a with
  | client a =>
    have hstep := ClientStep.of_step hs'
    have horderly := h.client_orderly hstep.may hstep.client hstep.session hstep.toClient
    cases a with
    | portalOp ok =>
      have hfailed : ok = false := ha
      rw [hfailed] at horderly
      cases horderly.1
    | connected c ok =>
      have hfailed : ok = false := ha
      rw [hfailed] at horderly
      cases horderly
    | _ => exact ha
  | server a =>
    have hstep := ServerStep.of_step hs'
    have horderly := h.server_orderly hstep.may hstep.server hstep.session
    cases a with
    | portalOp ok =>
      have hfailed : ok = false := ha
      rw [hfailed] at horderly
      cases horderly.1
    | _ => exact ha
  | transfer a =>
    replace hs' : s.transferStep cfg isFromServerToClient a = some s' := hs'
    unfold State.transferStep at hs'
    split_ifs at hs' with hmay
    cases a with
    | sendFailed c count =>
      simp only [transferMay, Bool.and_eq_true, decide_eq_true_eq] at hmay
      obtain ⟨hown, hpeer, hfile⟩ := h.linked.not_sendFailed hmay.1
      simp [hown, hpeer, hfile] at hmay
    | recvFailed c count =>
      simp only [transferMay, Bool.and_eq_true, decide_eq_true_eq] at hmay
      obtain ⟨hown, hpeer⟩ := h.linked.not_recvFailed hmay.1
      simp [hown, hpeer] at hmay
    | _ => exact ha

lemma left_or_beforeResult (pc : ClientPortal.ChannelPc) : pc.Left ∨ pc.BeforeResult := by
  cases pc <;> simp [ClientPortal.ChannelPc.Left, ClientPortal.ChannelPc.BeforeResult]

/-- A transfer without failures never ends as failed, whatever the order in which the threads of both
processes move and the messages between them arrive: no `ASSERT` fails and no member is dereferenced
behind its reset, what the processes dispose in the end fails no channel and no portal,
`transfer_result_status` is never `TRANSFER_FAILED`, and it is `TRANSFER_SUCCEEDED` in every state
in which no thread can take a step. -/
theorem never_fails (h : (machine cfg isFromServerToClient).Reach s) :
    (s.client.fault = none ∧ s.server.fault = none ∧ s.session.destination.aborted = false) ∧
    (∀ a : Action N, a.Fails → s.step cfg isFromServerToClient a = none) ∧
    (∀ c, s.client.channelResult c ≠ some false ∧ s.server.chan c ≠ .exit false) ∧
    s.client.portalResult ≠ some false ∧ s.client.transferResultStatus ≠ .failed ∧
    ((machine cfg isFromServerToClient).Terminal s →
      s.client.transferResultStatus = .succeeded) := by
  have hI := Inv.of_reach h
  obtain ⟨-, hresults, hcourse, hmembers, hfault⟩ := hI.ready.order
  refine ⟨⟨hfault, hI.inOrder.fault, hI.linked.inOrder.inv.aborted⟩, fun a => hI.not_fails,
    fun c => ⟨fun hfailed => ?_, fun hpc => ?_⟩, fun hfailed => ?_, fun hfailed => ?_,
    fun hT => hmembers.stored (hI.stored hT)⟩
  · rcases left_or_beforeResult (s.client.chan c) with hpc | hpc
    · rw [hcourse.left c hpc] at hfailed
      cases hfailed
    · rw [hresults.before c hpc] at hfailed
      cases hfailed
  · have hresult := hI.inOrder.course.result c false (.inr (.inr hpc))
    cases hresult
  · rcases hresults.stored (by simp [hfailed]) with ⟨r, hpc⟩ | hstored
    · have hresult := hresults.portal r hpc
      rw [hcourse.portal r hpc, hfailed] at hresult
      cases hresult
    · rw [hresults.succeeded (hmembers.stored hstored)] at hfailed
      cases hfailed
  · by_cases hstored : s.client.portal.Stored
    · rw [hmembers.stored hstored] at hfailed
      cases hfailed
    · rw [hmembers.unknown hstored] at hfailed
      cases hfailed

/-- The two portals exchange the versions and the information, and the client connects its two
channels and sends its request. -/
def twoFilesRequest : List (Action 2) :=
  List.flatten
    [[.client (.init .connected), .client .portal, .server .portal, .server (.portalOp true),
      .server .portal, .server (.portalOp true), .client (.portalOp true), .client .portal,
      .server .portal, .server (.portalOp true), .client (.information 2)],
    List.replicate 7 (.client .portal),
    [.client (.portalOp true), .client .portal, .client (.connected 0 true),
      .client (.connected 1 true)]]

/-- The server accepts the channels and responds, and both processes start their transfers. -/
def twoFilesResponse : List (Action 2) :=
  List.flatten
    [[.server .portal, .server (.portalOp true), .server (.create (.created .destination)),
      .server (.initialise .ok), .server (.openChannel 0), .server (.openChannel 1)],
    List.replicate 5 (.server (.channel 0)), List.replicate 6 (.server (.channel 1)),
    List.replicate 3 (.server .portal), [.server (.portalOp true), .client (.portalOp true)],
    List.replicate 5 (.client .portal), List.replicate 3 (.server .portal),
    List.replicate 4 (.client (.channel 0)), List.replicate 4 (.client (.channel 1)),
    List.replicate 4 (.server (.channel 0)), List.replicate 4 (.server (.channel 1))]

/-- The blocks and the final tails. -/
def twoFilesCopy : List (Action 2) :=
  List.map .transfer (Session.twoFilesSends ++ Session.twoFilesReceives)

/-- The report, and the end of both processes. -/
def twoFilesEnd : List (Action 2) :=
  List.flatten
    [List.replicate 2 (.client (.channel 0)), List.replicate 2 (.client (.channel 1)),
    List.replicate 2 (.server (.channel 0)), List.replicate 2 (.server (.channel 1)),
    [.server .portal, .server (.portalOp true), .client (.portalOp true)],
    List.replicate 3 (.client .portal), [.server .portal, .server (.channel 1)],
    List.replicate 3 (.client .dispose), List.replicate 4 (.transfer (.source .dispose)),
    List.replicate 11 (.client .dispose), List.replicate 7 (.server .dispose),
    List.replicate 5 (.transfer .dispose), List.replicate 12 (.server .dispose),
    List.replicate 4 (.client .main)]

def twoFilesUpload : List (Action 2) :=
  List.flatten [twoFilesRequest, twoFilesResponse, twoFilesCopy, twoFilesEnd]

def twoFilesStart : State 2 2 where
  server := ClientInstance.start 2
  session := Session.twoFilesSessionStart

lemma twoFilesStart_init : (machine Session.twoFilesSession false).init twoFilesStart :=
  ⟨_, _, ⟨by decide, by decide, rfl⟩, Session.twoFilesSessionStart_init, rfl⟩

lemma twoFilesUpload_ended :
    ((machine Session.twoFilesSession false).run twoFilesStart twoFilesUpload).map (fun s =>
        decide ((s.client.main = .done ∧ s.client.portal = .done ∧
          (s.client.chan 0 = .done ∧ s.client.chan 1 = .done) ∧ s.client.disposer = .done) ∧
          s.server.portal = .done ∧ (s.server.chan 0 = .done ∧ s.server.chan 1 = .done) ∧
          s.server.disposer = .done)) =
      some true := by
  decide +kernel

lemma twoFilesUpload_read :
    ((machine Session.twoFilesSession false).run twoFilesStart twoFilesUpload).map
      (·.client.read) = some (some .succeeded) := by
  decide +kernel

lemma ended_twoFiles {s : State 2 2}
    (h : (s.client.main = .done ∧ s.client.portal = .done ∧
        (s.client.chan 0 = .done ∧ s.client.chan 1 = .done) ∧ s.client.disposer = .done) ∧
      s.server.portal = .done ∧ (s.server.chan 0 = .done ∧ s.server.chan 1 = .done) ∧
      s.server.disposer = .done) : Ended s := by
  obtain ⟨⟨hmain, hportal, ⟨hchan₀, hchan₁⟩, hdisposer⟩, hportal', ⟨hchan₀', hchan₁'⟩,
    hdisposer'⟩ := h
  refine ⟨hmain, hportal, fun c hc => ?_, hdisposer, hportal', fun c hc => ?_, hdisposer'⟩
  · rcases Nat.le_one_iff_eq_zero_or_eq_one.mp (Nat.le_of_lt_succ hc) with rfl | rfl
    · exact hchan₀
    · exact hchan₁
  · rcases Nat.le_one_iff_eq_zero_or_eq_one.mp (Nat.le_of_lt_succ hc) with rfl | rfl
    · exact hchan₀'
    · exact hchan₁'

/-- The upload of two files ends with success. -/
theorem never_fails_twoFiles :
    ∃ s, (machine Session.twoFilesSession false).run twoFilesStart twoFilesUpload = some s ∧
      (machine Session.twoFilesSession false).Terminal s ∧
      s.client.transferResultStatus = .succeeded := by
  obtain ⟨s, hrun, hs⟩ := Option.map_eq_some_iff.mp twoFilesUpload_ended
  have hreach : (machine Session.twoFilesSession false).Reach s :=
    Machine.Reach.of_run (.init twoFilesStart_init) hrun
  have hterminal := (ended_twoFiles (of_decide_eq_true hs)).terminal (.of_reach hreach)
  exact ⟨s, hrun, hterminal, (never_fails hreach).2.2.2.2.2 hterminal⟩

end Protocol

end Xcp
