import Xcp.Protocol.Progress

/-!
# The end of both processes

The states of the protocol in which no thread can go on are those in which all threads of both
processes have ended: behind the exchange each process disposes itself, its transfer closes its
files, and its disposing thread joins threads that have ended.
-/

namespace Xcp

open ClientInstance (TransferKind)

open ClientPortal (kindOf Ready)

/-! ### Where the end of the portal thread leads -/

namespace Destination

variable {F N : ℕ} {info : BasicTransferInfo F} {os : OsAnswers info} {e : Bytes.Endian}
  {C : State F N → Action N → Prop} {s : State F N}

/-- The file whose mapping is about to be removed is one of the transfer. -/
lemma reach_unmapFile (h : (machine os N e).ReachIf C s) {n : ℕ}
    (hd : s.disposer = .unmapFile n) : n < F := by
  refine h.invariant (I := fun s => ∀ n, s.disposer = .unmapFile n → n < F) (fun s hs n hd => ?_)
    (fun s a s' _ hs _ hstep n hd => ?_) n hd
  · rw [(Initial.of_init hs).disposer_eq] at hd
    cases hd
  · obtain ⟨-, h⟩ := Step.of_step hstep
    by_cases ha : a = .dispose
    · subst ha
      cases h with
      | @disposeClose k =>
        cases hd
        exact k.isLt
      | disposeStart | disposeUnmap | disposeForce | disposeNoGate | disposeSet => cases hd
    · exact hs n ((h.disposer_eq ha).symm.trans hd)

end Destination

namespace ClientPortal

variable {isFromServerToClient : Bool} {s s' : State}

/-- A client whose portal thread has ended is asked to exit and is being disposed, and the channels
that it joins have been started. -/
structure Ends (s : State) : Prop where
  exitRequired : s.portal = .done → s.exitRequired = true
  disposer : s.portal = .requireExit ∨ s.portal = .done → s.disposer ≠ .idle
  channels : ∀ c ∈ s.channels, s.chan c ≠ .absent
  disposes : ∀ rest, s.disposer = .disposeChannel rest → ∀ c ∈ rest, s.chan c ≠ .absent
  joins : ∀ c rest, s.disposer = .joinChannel c rest → ∀ i ∈ c :: rest, s.chan i ≠ .absent

/-- Threads of channels are started, and none is forgotten. -/
lemma Ends.keep (hs : Ends s) (hportal : s'.portal ≠ .requireExit ∧ s'.portal ≠ .done ∨
      s'.portal = s.portal ∧ s'.exitRequired = s.exitRequired)
    (hd : s'.disposer = s.disposer) (hchannels : s'.channels = s.channels)
    (hchan : ∀ c, s.chan c ≠ .absent → s'.chan c ≠ .absent) : Ends s' := by
  refine ⟨fun hpc => ?_, fun hpc => ?_, ?_, ?_, ?_⟩
  · rcases hportal with hne | ⟨hportal, hexit⟩
    · exact absurd hpc hne.2
    · rw [hexit]
      exact hs.exitRequired (hportal ▸ hpc)
  · rw [hd]
    rcases hportal with hne | ⟨hportal, -⟩
    · exact (hpc.elim hne.1 hne.2).elim
    · exact hs.disposer (hportal ▸ hpc)
  · rw [hchannels]
    exact fun c hc => hchan c (hs.channels c hc)
  · rw [hd]
    exact fun rest hrest c hc => hchan c (hs.disposes rest hrest c hc)
  · rw [hd]
    exact fun c rest hrest i hi => hchan i (hs.joins c rest hrest i hi)

lemma Ends.startDispose (hs : Ends s) : Ends s.startDispose := by
  rw [startDispose_eq]
  obtain ⟨hexit, hdisposer, hchannels, hdisposes, hjoins⟩ := hs
  constructor <;> first | assumption | grind -linarith

lemma Ends.portalStep (hs : Ends s) (hm : Members isFromServerToClient s) (hpc : s.portal.Runs)
    (h : PortalStep isFromServerToClient s s') : Ends s' := by
  cases h with
  | @create k =>
    refine hs.keep (.inl (by simp [State.setPortal, State.setChan])) rfl rfl fun c hc => ?_
    dsimp only [State.setPortal, State.setChan]
    grind -linarith
  | @add k hpc =>
    have hadded := hm.adding k hpc
    obtain ⟨hexit, hdisposer, hchannels, hdisposes, hjoins⟩ := hs
    refine ⟨by simp [State.setPortal], by simp [State.setPortal], fun c hc => ?_, hdisposes, hjoins⟩
    rcases List.mem_append.mp hc with hc | hc
    · exact hchannels c hc
    · obtain rfl := List.mem_singleton.mp hc
      exact hadded c (Nat.lt_succ_self c)
  | exit hpc =>
    have h := hs.startDispose
    refine ⟨by simp [State.setPortal], fun _ => ?_, h.channels, h.disposes, h.joins⟩
    rw [startDispose_eq]
    dsimp only [State.setPortal]
    split_ifs with hd
    · simp
    · exact hd
  | requireExit hpc =>
    exact ⟨fun _ => rfl, fun _ => hs.disposer (.inl hpc), hs.channels, hs.disposes, hs.joins⟩
  | created | signalReady | invoke =>
    refine hs.keep (.inl ?_) rfl rfl fun _ => id
    dsimp only [State.setPortal]
    split_ifs <;> simp
  | useNull | transferNull | signalCount | invokeNullSocket =>
    exact hs.keep (.inr ⟨rfl, rfl⟩) rfl rfl fun _ => id
  | opFailed hpc' | information hpc' | recvVersion hpc' | sendRequest hpc' | recvResponse hpc'
  | initInfo hpc' | exchange hpc' =>
    rw [hpc'] at hpc
    exact hpc.elim
  | _ => exact hs.keep (.inl (by simp [State.setPortal])) rfl rfl fun _ => id

lemma Ends.disposeStep (hs : Ends s) (h : DisposeStep s s') : Ends s' := by
  obtain ⟨hexit, hdisposer, hchannels, hdisposes, hjoins⟩ := hs
  cases h with
  | @disposeChannel c rest hd =>
    have hrest := hdisposes (c :: rest) hd
    refine ⟨hexit, fun _ => by simp [State.setDisposer], hchannels,
      fun l hl => (by cases hl), fun i l hl => ?_⟩
    cases hl
    exact hrest
  | @joinChannel c rest hd =>
    have hrest := hjoins c rest hd
    refine ⟨hexit, fun _ => by simp [State.setDisposer], hchannels, fun l hl i hi => ?_,
      fun i l hl => by cases hl⟩
    cases hl
    exact hrest i (List.mem_cons_of_mem c hi)
  | _ =>
    dsimp only [State.setDisposer]
    constructor <;> first | assumption | grind -linarith

lemma Ends.step (hs : Ends s) (hm : Members isFromServerToClient s)
    (h : OrderlyStep isFromServerToClient s s') : Ends s' := by
  have hupdate : ∀ (c : ℕ) (pc : ChannelPc), pc ≠ .absent →
      ∀ i, s.chan i ≠ .absent → (s.setChan c pc).chan i ≠ .absent := by
    intro c pc hpc i hi
    dsimp only [State.setChan]
    grind -linarith
  cases h with
  | main hpc h =>
    cases h with
    | noTransfer hinit | notConnected hinit | connected hinit => exact absurd hinit hpc
    | dispose => exact hs.startDispose.keep (.inr ⟨rfl, rfl⟩) rfl rfl fun _ => id
    | waitExit | waitDispose | read => exact hs.keep (.inr ⟨rfl, rfl⟩) rfl rfl fun _ => id
  | portal hpc h => exact hs.portalStep hm hpc h
  | @channel c _ hpc h =>
    cases h with
    | connected hpc' | notConnected hpc' | transferred hpc' =>
      rw [hpc'] at hpc
      exact hpc.elim
    | transferNull => exact hs.keep (.inr ⟨rfl, rfl⟩) rfl rfl fun _ => id
    | @exit success =>
      cases success with
      | true => exact hs.keep (.inr ⟨rfl, rfl⟩) rfl rfl (hupdate c _ (by simp))
      | false =>
        have h := hs.startDispose
        refine h.keep (.inr ⟨rfl, rfl⟩) rfl rfl fun i hi => ?_
        rw [startDispose_eq] at hi ⊢
        exact hupdate c _ (by simp) i hi
    | signalFinished =>
      refine hs.keep (.inr ⟨rfl, rfl⟩) rfl rfl (hupdate c _ ?_)
      split_ifs <;> simp
    | _ => exact hs.keep (.inr ⟨rfl, rfl⟩) rfl rfl (hupdate c _ (by simp))
  | dispose h => exact hs.disposeStep h
  | connected => exact hs.keep (.inr ⟨rfl, rfl⟩) rfl rfl (hupdate _ _ (by simp))
  | transferred =>
    refine hs.keep (.inr ⟨rfl, rfl⟩) rfl rfl (hupdate _ _ ?_)
    split_ifs <;> simp
  | recvResponse =>
    refine hs.keep (.inl ?_) rfl rfl fun _ => id
    dsimp only [State.setPortal]
    split_ifs <;> simp
  | initInfoFault => exact hs.keep (.inr ⟨rfl, rfl⟩) rfl rfl fun _ => id
  | _ => exact hs.keep (.inl (by simp [State.setPortal, State.setMain])) rfl rfl fun _ => id

lemma Ends.of_reach (h : (machine isFromServerToClient).ReachIf Orderly s) : Ends s := by
  refine h.invariant (fun s hs => ?_) fun s a s' hreach hs ha hstep => ?_
  · obtain rfl := hs
    constructor <;> simp
  · exact hs.step (InOrder.of_reach hreach).members (OrderlyStep.of_step ha hstep).2

end ClientPortal

namespace ClientInstance

variable {n : ℕ} {kind : TransferKind} {s : State}

/-- An instance whose portal thread has ended is being disposed. -/
lemma disposer_of_done (h : (machine n).ReachIf (Orderly n kind) s) (hpc : s.portal = .done) :
    s.disposer ≠ .idle := by
  refine h.invariant (I := fun s => s.portal = .done → s.disposer ≠ .idle) (fun s hs hpc => ?_)
    (fun s a s' _ hs ha hstep => ?_) hpc
  · obtain ⟨-, -, rfl⟩ := hs
    cases hpc
  · cases (OrderlyStep.of_step ha hstep).2 with
    | portal hruns h =>
      cases h with
      | exit =>
        rw [startDispose_eq]
        dsimp only [State.setPortal]
        grind -linarith
      | useNull | createdNull | invokeNull | invokeNullSocket => exact hs
      | opDone hpc' | opFailed hpc' | create hpc' | createError hpc' | createException hpc'
      | createdSource hpc' | createdDestination hpc' | exchange hpc' =>
        rw [hpc'] at hruns
        exact hruns.elim
      | _ =>
        dsimp only [State.setPortal]
        grind -linarith
    | channel _ h =>
      cases h with
      | @exit result =>
        rw [startDispose_eq]
        dsimp only [State.setChan]
        grind -linarith
      | _ => exact hs
    | dispose h =>
      cases h <;> simp [State.setDisposer]
    | @opDone op =>
      cases op <;> simp [State.setPortal, SocketOp.next]
    | transferred | openChannel | sendRequest | createdNull => exact hs
    | _ => simp [State.setPortal]

end ClientInstance

/-! ### The end of both processes -/

namespace Protocol

variable {F N : ℕ} {cfg : Session.Config F N} {isFromServerToClient : Bool} {s : State F N}
  {t : Session.State F N} {v w : Side}

/-- In the end the portal threads of both processes are behind the exchange. -/
lemma Inv.client_behind (h : Inv cfg isFromServerToClient s)
    (hT : (machine cfg isFromServerToClient).Terminal s) : s.client.side.portal = .behind := by
  rcases h.stored hT with hpc | hpc | hpc <;>
    simp [ClientPortal.State.side, hpc, ClientPortal.PortalPc.phase]

/-- In the end the portal thread of the client has ended. -/
lemma Inv.client_portal_done (h : Inv cfg isFromServerToClient s)
    (hT : (machine cfg isFromServerToClient).Terminal s) : s.client.portal = .done := by
  have hportal := h.client_portal hT
  rcases h.stored hT with hpc | hpc | hpc
  · simp [hpc, ClientPortal.State.portalStep] at hportal
  · simp [hpc, ClientPortal.State.portalStep] at hportal
  · exact hpc

/-- In the end the portal thread of the instance has ended. -/
lemma Inv.server_portal_done (h : Inv cfg isFromServerToClient s)
    (hT : (machine cfg isFromServerToClient).Terminal s) : s.server.portal = .done := by
  have hdone := h.client_portal_done hT
  have hbehind := h.client_behind hT
  have hlinked := h.linked
  have hle := h.messages.clientLe
  rw [hdone] at hle
  -- the destination has reported, and its portal thread is behind the exchange
  rcases h.server_cases hT with ⟨hpc, -⟩ | hpc | hpc | hpc | hpc
  · simp [hpc, ClientInstance.PortalPc.sent, ClientPortal.PortalPc.received] at hle
  · simp [hpc, ClientInstance.PortalPc.sent, ClientPortal.PortalPc.received] at hle
  · have hphase : s.server.side.portal = .waiting := by
      simp [ClientInstance.State.side, hpc, ClientInstance.PortalPc.phase]
    cases isFromServerToClient with
    | true => exact absurd hphase hlinked.source.waiting
    | false =>
      have hreported := hlinked.reported (.inl hbehind)
      rw [hlinked.destination.portal,
        show (s.side false .destination).portal = .waiting from hphase] at hreported
      cases hreported
  · have hphase : s.server.side.portal = .exchanging := by
      simp [ClientInstance.State.side, hpc, ClientInstance.PortalPc.phase]
    cases isFromServerToClient with
    | true => exact (h.server_exchange hT hpc (hlinked.recv_isSome hphase hbehind)).elim
    | false => exact (h.server_exchange hT hpc (hlinked.send_isSome hphase)).elim
  · exact hpc

/-- In the end the threads of all channels have ended. -/
lemma Inv.chan_done (h : Inv cfg isFromServerToClient s)
    (hT : (machine cfg isFromServerToClient).Terminal s) {c : ℕ} (hc : c < N) :
    s.client.chan c = .done ∧ s.server.chan c = .done := by
  have hdone := h.client_portal_done hT
  obtain ⟨hclient, hserver⟩ := h.behind (.inl (h.client_behind hT)) hc
  have hpast : s.client.portal.PastCreating := by
    simp [hdone, ClientPortal.PortalPc.PastCreating, ClientPortal.PortalPc.BeforeChannels]
  obtain ⟨hchan, hchan'⟩ := h.accepted hT hpast hc
  constructor
  · rcases h.client_chan hT hchan with ⟨hpc, -⟩ | hpc | hpc
    · simp [ClientPortal.State.side, hpc, ClientPortal.ChannelPc.phase] at hclient
    · simp [ClientPortal.State.side, hpc, ClientPortal.ChannelPc.phase] at hclient
    · exact hpc
  · rcases h.server_chan hT hchan' with ⟨hpc, -⟩ | ⟨kind, hpc⟩ | hpc
    · simp [ClientInstance.State.side, hpc, ClientInstance.ChannelPc.phase] at hserver
    · simp [ClientInstance.State.side, hpc, ClientInstance.ChannelPc.phase] at hserver
    · exact hpc

/-! ### The files -/

/-- A destination whose files are being closed goes on until its gate is forced. -/
lemma Linked.dispose_isSome (h : Linked cfg t v w) (hopen : w.portalOpen = false)
    (hd : w.disposal = .closing ∨ w.disposal = .setting) : (t.step cfg .dispose).isSome := by
  have hclosed : t.portalOpen = false := h.destination.portalOpen.trans hopen
  have habort := h.inOrder.inv.aborted
  have hdisposer : t.destination.disposer ≠ .done := by
    have hdisposal := h.destination.disposal
    rcases hd with hd | hd <;> simp only [hd, Disposal.Destination] at hdisposal
    · exact hdisposal.2
    · simp [hdisposal]
  have hunmap := fun n => Destination.reach_unmapFile (n := n) (Session.reach_destination h.reach)
  have hstep : t.destination.disposeStep.isSome := by
    unfold Destination.State.disposeStep
    cases hpc : t.destination.disposer with
    | idle | setEvent => rfl
    | done => exact absurd hpc hdisposer
    | closeHandle n =>
      dsimp only
      split_ifs <;> rfl
    | unmapFile n => simp [hunmap n hpc]
  simpa [Session.State.step, hclosed, Destination.State.step, habort] using hstep

/-- The disposing thread of a destination forces the gate behind its files. -/
lemma Inv.force_isSome (h : Inv cfg isFromServerToClient s)
    (hT : (machine cfg isFromServerToClient).Terminal s)
    (hopen : (s.side isFromServerToClient .destination).portalOpen = false)
    (hd : (s.side isFromServerToClient .destination).disposal = .closing) :
    (sync cfg s.session .destination .force).isSome := by
  have hstep := h.linked.dispose_isSome hopen (.inl hd)
  by_cases hclosed : filesClosed s.session = true
  · simpa [sync, hclosed] using hstep
  · rw [h.transfer_stops hT (by simpa [transferMay, hd] using hclosed)] at hstep
    cases hstep

/-- The disposing thread of a source releases it behind its files. -/
lemma Inv.release_isSome (h : Inv cfg isFromServerToClient s)
    (hT : (machine cfg isFromServerToClient).Terminal s)
    (hd : (s.side isFromServerToClient .source).disposal = .closing) :
    (sync cfg s.session .source .release).isSome := by
  by_cases hdone : s.session.source.disposer = .done
  · simp [sync, hdone]
  · have hnone := h.transfer_stops hT (a := .source .dispose) (by simp [transferMay, hd])
    exfalso
    simp only [Session.State.step, Session.State.sourceStep, Source.State.step,
      Option.map_eq_none_iff] at hnone
    split at hnone
    · cases hnone
    · split_ifs at hnone
    · next hpc => exact hdone hpc

/-- In the end the client is disposed. -/
lemma Inv.client_disposed (h : Inv cfg isFromServerToClient s)
    (hT : (machine cfg isFromServerToClient).Terminal s) : s.client.disposer = .done := by
  have hportal := h.client_portal_done hT
  have hends := ClientPortal.Ends.of_reach h.client
  have hchan : ∀ c, s.client.chan c ≠ .absent → s.client.chan c = .done := fun c hc => by
    have hlt := h.ready.order.inv.threads.total c hc
    exact (h.chan_done hT (hlt.trans_le (by rcases h.total_eq with hN | hN <;> simp [hN]))).1
  have hgo : s.client.disposeStep.isSome →
      (sync cfg s.session (kindOf isFromServerToClient) (s.client.call .dispose)).isSome →
      False := fun hstep hsync => by
    refine not_terminal_client hT (a := .dispose) rfl ?_ hsync (dequeue_none _)
      (requested_of_ne (by simp [clientSends]))
    rw [h.client_step]
    exact hstep
  have hquiet : s.client.call .dispose = .none → s.client.disposeStep = none := fun hcall => by
    by_contra hsome
    exact hgo (Option.isSome_iff_ne_none.mpr hsome) (hcall ▸ sync_none _)
  have hopen := h.ready.order.inv.teardown.socketOpen
  cases hd : s.client.disposer with
  | done => rfl
  | idle => exact absurd hd (hends.disposer (.inr hportal))
  | disposeSocket =>
    refine (hgo (by simp [ClientPortal.State.disposeStep, hd]) ?_).elim
    simp only [ClientPortal.State.call, hd]
    cases isFromServerToClient <;> rfl
  | disposeTransfer =>
    have hside : s.client.side.disposal = .closing := by
      simp [ClientPortal.State.side, hd, ClientPortal.DisposerPc.disposal]
    have hclosed : s.client.side.portalOpen = false := by
      rw [hd] at hopen
      simpa [ClientPortal.State.side, ClientPortal.DisposerPc.stage] using hopen
    refine (hgo ?_ ?_).elim
    · simp only [ClientPortal.State.disposeStep, hd]
      split_ifs <;> rfl
    · simp only [ClientPortal.State.call, hd]
      cases isFromServerToClient with
      | true =>
        split_ifs
        · exact h.force_isSome hT hclosed hside
        · rfl
      | false =>
        rw [if_neg (by
          rw [(h.ready.order.members.upload rfl).1]
          decide)]
        exact h.release_isSome hT hside
  | setFinished =>
    have hside : s.client.side.disposal = .setting := by
      simp [ClientPortal.State.side, hd, ClientPortal.DisposerPc.disposal]
    have hclosed : s.client.side.portalOpen = false := by
      rw [hd] at hopen
      simpa [ClientPortal.State.side, ClientPortal.DisposerPc.stage] using hopen
    refine (hgo (by simp [ClientPortal.State.disposeStep, hd]) ?_).elim
    simp only [ClientPortal.State.call, hd]
    cases isFromServerToClient with
    | true => exact h.linked.dispose_isSome hclosed (.inr hside)
    | false => exact absurd hd (h.ready.order.members.upload rfl).2.2.2.1
  | joinPortal =>
    have hnone := hquiet (by simp [ClientPortal.State.call, hd])
    simp [ClientPortal.State.disposeStep, hd, hportal] at hnone
  | joinChannel c rest =>
    have hnone := hquiet (by simp [ClientPortal.State.call, hd])
    have hdone := hchan c (hends.joins c rest hd c List.mem_cons_self)
    simp [ClientPortal.State.disposeStep, hd, hdone] at hnone
  | disposeChannel rest =>
    have hnone := hquiet (by simp [ClientPortal.State.call, hd])
    cases rest <;> simp [ClientPortal.State.disposeStep, hd] at hnone
  | resetSocket | ifTransfer | resetTransfer | forceReady | setReady | acquireRundown =>
    have hnone := hquiet (by simp [ClientPortal.State.call, hd])
    simp [ClientPortal.State.disposeStep, hd] at hnone

/-- In the end the instance is disposed. -/
lemma Inv.server_disposed (h : Inv cfg isFromServerToClient s)
    (hT : (machine cfg isFromServerToClient).Terminal s) : s.server.disposer = .done := by
  have horder := h.inOrder
  have hportal := h.server_portal_done hT
  have hchan : ∀ c, s.server.chan c ≠ .absent → s.server.chan c = .done := fun c hc =>
    (h.chan_done hT (horder.course.range c hc)).2
  have hgo : s.server.disposeStep.isSome →
      (sync cfg s.session (kindOf !isFromServerToClient) (s.server.call .dispose)).isSome →
      False := fun hstep hsync => by
    refine not_terminal_server hT (h.begun hT) (a := .dispose) rfl ?_ hsync (dequeue_none _)
    rw [h.server_step]
    exact hstep
  have hquiet : s.server.call .dispose = .none → s.server.disposeStep = none := fun hcall => by
    by_contra hsome
    exact hgo (Option.isSome_iff_ne_none.mpr hsome) (hcall ▸ sync_none _)
  have hopen := horder.inv.teardown.socketOpen
  have hkind := horder.course.transfer
  cases hd : s.server.disposer with
  | done => rfl
  | idle => exact absurd hd (ClientInstance.disposer_of_done h.server hportal)
  | disposeSocket =>
    refine (hgo (by simp [ClientInstance.State.disposeStep, hd]) ?_).elim
    simp only [ClientInstance.State.call, hd]
    cases isFromServerToClient <;> rfl
  | disposeTransfer =>
    have hside : s.server.side.disposal = .closing := by
      simp [ClientInstance.State.side, hd, ClientInstance.DisposerPc.disposal]
    have hclosed : s.server.side.portalOpen = false := hopen (by rw [hd]; decide)
    refine (hgo ?_ ?_).elim
    · simp only [ClientInstance.State.disposeStep, hd]
      split_ifs <;> rfl
    · simp only [ClientInstance.State.call, hd]
      cases isFromServerToClient with
      | true =>
        rw [if_neg (fun hdestination => by cases hkind _ hdestination.1)]
        exact h.release_isSome hT hside
      | false =>
        split_ifs
        · exact h.force_isSome hT hclosed hside
        · rfl
  | setFinished =>
    have hside : s.server.side.disposal = .setting := by
      simp [ClientInstance.State.side, hd, ClientInstance.DisposerPc.disposal]
    have hclosed : s.server.side.portalOpen = false := hopen (by rw [hd]; decide)
    refine (hgo (by simp [ClientInstance.State.disposeStep, hd]) ?_).elim
    simp only [ClientInstance.State.call, hd]
    have hforced := horder.course.forced hd
    cases isFromServerToClient with
    | true => cases hforced
    | false => exact h.linked.dispose_isSome hclosed (.inr hside)
  | joinPortal =>
    have hnone := hquiet (by simp [ClientInstance.State.call, hd])
    simp [ClientInstance.State.disposeStep, hd, hportal] at hnone
  | lockSerial =>
    have hnone := hquiet (by simp [ClientInstance.State.call, hd])
    cases hserial : s.server.serial with
    | none => simp [ClientInstance.State.disposeStep, hd, hserial] at hnone
    | some owner =>
      cases owner with
      | disposer =>
        have hlock := horder.inv.locks.serialDisposer.mp hserial
        rw [hd] at hlock
        cases hlock
      | channel c =>
        have hpc := (horder.inv.locks.serial c).mpr hserial
        have hdone := hchan c (by simp [hpc])
        rw [hpc] at hdone
        cases hdone
  | lockMutex =>
    have hnone := hquiet (by simp [ClientInstance.State.call, hd])
    cases hmutex : s.server.mutex with
    | none => simp [ClientInstance.State.disposeStep, hd, hmutex] at hnone
    | some owner =>
      cases owner with
      | disposer =>
        have hlock := horder.inv.locks.mutexDisposer.mp hmutex
        rw [hd] at hlock
        cases hlock
      | channel c =>
        have hpc := (horder.inv.locks.mutex c).mpr hmutex
        have hdone := hchan c (by simp [hpc])
        rw [hpc] at hdone
        cases hdone
  | joinChannel c rest =>
    have hnone := hquiet (by simp [ClientInstance.State.call, hd])
    have hadded : (s.server.chan c).Added := by
      have hprogress := horder.inv.channels.progress
      rw [hd] at hprogress
      refine (horder.inv.channels.added c).mp ?_
      cases hprogress with
      | before h => simp [ClientInstance.DisposerPc.stage] at h
      | after h => simp [ClientInstance.DisposerPc.stage] at h
      | joinChannel hadded => simp [hadded]
    have hdone := hchan c fun habsent => by
      rw [habsent] at hadded
      simp [ClientInstance.ChannelPc.Added, ClientInstance.ChannelPc.Inside] at hadded
    simp [ClientInstance.State.disposeStep, hd, hdone] at hnone
  | disposeChannel rest =>
    have hnone := hquiet (by simp [ClientInstance.State.call, hd])
    cases rest <;> simp [ClientInstance.State.disposeStep, hd] at hnone
  | resetSocket | forceAll | setAll | forceReady | setReady | ifTransfer | resetTransfer | remove =>
    have hnone := hquiet (by simp [ClientInstance.State.call, hd])
    simp [ClientInstance.State.disposeStep, hd] at hnone

/-- In the end the main thread of the client has read the result. -/
lemma Inv.main_done (h : Inv cfg isFromServerToClient s)
    (hT : (machine cfg isFromServerToClient).Terminal s) : s.client.main = .done := by
  have hexit := (ClientPortal.Ends.of_reach h.client).exitRequired (h.client_portal_done hT)
  have hdisposed := h.client_disposed hT
  have hnone : s.client.mainStep = none := by
    by_contra hsome
    refine not_terminal_client hT (a := .main) rfl ?_ (sync_none _) (dequeue_none _)
      (requested_of_ne (by simp [clientSends]))
    rw [h.client_step]
    exact Option.isSome_iff_ne_none.mpr hsome
  cases hpc : s.client.main with
  | done => rfl
  | init => exact absurd hpc (h.begun hT)
  | _ => simp [ClientPortal.State.mainStep, hpc, hexit, hdisposed] at hnone

/-- The states of the protocol in which no thread can take a step are those in which all threads of
both processes have ended: neither process waits for ever, for the other or in its disposal. -/
theorem terminal_iff_ended (h : (machine cfg isFromServerToClient).Reach s) :
    (machine cfg isFromServerToClient).Terminal s ↔ Ended s := by
  have hI := Inv.of_reach h
  refine ⟨fun hT => ?_, fun he => he.terminal hI⟩
  exact ⟨hI.main_done hT, hI.client_portal_done hT, fun c hc => (hI.chan_done hT hc).1,
    hI.client_disposed hT, hI.server_portal_done hT, fun c hc => (hI.chan_done hT hc).2,
    hI.server_disposed hT⟩

/-- The upload of two files does not end before its last step. -/
theorem terminal_iff_ended_twoFiles :
    ¬ (machine Session.twoFilesSession false).Terminal twoFilesStart ∧
      ∃ s, (machine Session.twoFilesSession false).run twoFilesStart twoFilesUpload = some s ∧
        (machine Session.twoFilesSession false).Terminal s := by
  refine ⟨fun hT => ?_, ?_⟩
  · have hended := (terminal_iff_ended (.init twoFilesStart_init)).mp hT
    cases hended.main
  · obtain ⟨s, hrun, hs⟩ := Option.map_eq_some_iff.mp twoFilesUpload_ended
    have hreach : (machine Session.twoFilesSession false).Reach s :=
      Machine.Reach.of_run (.init twoFilesStart_init) hrun
    exact ⟨s, hrun, (terminal_iff_ended hreach).mpr (ended_twoFiles (of_decide_eq_true hs))⟩

end Protocol

end Xcp
