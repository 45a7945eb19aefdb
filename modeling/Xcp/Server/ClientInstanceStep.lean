import Xcp.Server.ClientInstance

/-!
# What a client instance can do

The steps of the threads of a client instance, read off the step function.
-/

namespace Xcp

namespace ClientInstance

/-- The steps of the portal thread. -/
inductive PortalStep (n : ℕ) (s : State) : State → Prop where
  | use {op} (hpc : s.portal = .use op) (hsocket : s.socket = true) :
      PortalStep n s ({ s with
        informationSent := s.informationSent || decide (op = SocketOp.sendInformation) }.setPortal
          (.inside op))
  | useNull {op} (hpc : s.portal = .use op) (hsocket : s.socket = false) :
      PortalStep n s (s.crash .nullSocket)
  | opDone {op} (hpc : s.portal = .inside op) (hopen : s.socketOpen = true)
      (hrequest : op = .recvRequest → s.requestSent = true) : PortalStep n s (s.setPortal op.next)
  | opFailed {op} (hpc : s.portal = .inside op) : PortalStep n s (s.setPortal .exit)
  | create {kind} (hpc : s.portal = .create) :
      PortalStep n s ({ s with transfer := some kind }.setPortal .created)
  | createError (hpc : s.portal = .create) : PortalStep n s (s.setPortal (.use .sendErrorResponse))
  | createException (hpc : s.portal = .create) : PortalStep n s (s.setPortal .exit)
  | createdNull (hpc : s.portal = .created) (htransfer : s.transfer = none) :
      PortalStep n s (s.crash .nullTransfer)
  | createdSource (hpc : s.portal = .created) (htransfer : s.transfer = some .source) :
      PortalStep n s (s.setPortal .waitAll)
  | createdDestination {pc} (hpc : s.portal = .created) (htransfer : s.transfer = some .destination)
      (hpc' : pc = .waitAll ∨ pc = .use .sendErrorResponse ∨ pc = .exit) :
      PortalStep n s ({ s with
        gateAllChannelsFinished := { atLeastSignal := n } }.setPortal pc)
  | waitAll (hpc : s.portal = .waitAll) (hset : s.gateAllChannelRepeatsConnected.isSet = true) :
      PortalStep n s (s.setPortal .check)
  | checkDisposed (hpc : s.portal = .check) (hd : s.disposer ≠ .idle) :
      PortalStep n s (s.setPortal .exit)
  | checkNormal (hpc : s.portal = .check) (hd : s.disposer = .idle) :
      PortalStep n s (s.setPortal (.use .sendResponse))
  | signalReady (hpc : s.portal = .signalReady) :
      PortalStep n s ({ s with
        gatePortalReadyToTransfer := s.gatePortalReadyToTransfer.increment }.setPortal
          (if s.gatePortalReadyToTransfer.increment.reached then .setReady else .invoke))
  | setReady (hpc : s.portal = .setReady) :
      PortalStep n s ({ s with
        gatePortalReadyToTransfer := s.gatePortalReadyToTransfer.set }.setPortal .invoke)
  | invokeNull (hpc : s.portal = .invoke) (htransfer : s.transfer = none) :
      PortalStep n s (s.crash .nullTransfer)
  | invokeNullSocket (hpc : s.portal = .invoke) (htransfer : s.transfer.isSome)
      (hsocket : s.socket = false) : PortalStep n s (s.crash .nullSocket)
  | invokeSource (hpc : s.portal = .invoke) (htransfer : s.transfer = some .source)
      (hsocket : s.socket = true) : PortalStep n s (s.setPortal .exchange)
  | invokeDestination (hpc : s.portal = .invoke) (htransfer : s.transfer = some .destination)
      (hsocket : s.socket = true) : PortalStep n s (s.setPortal .waitFinished)
  | waitFinished (hpc : s.portal = .waitFinished)
      (hset : s.gateAllChannelsFinished.isSet = true) : PortalStep n s (s.setPortal .exchange)
  | exchange (hpc : s.portal = .exchange) : PortalStep n s (s.setPortal .exit)
  | exit (hpc : s.portal = .exit) : PortalStep n s (s.startDispose.setPortal .done)

/-- The steps of the thread of channel `c`. -/
inductive ChannelStep (s : State) (c : ℕ) : State → Prop where
  | lookup (hpc : s.chan c = .connecting) : ChannelStep s c (s.setChan c .acquire)
  | lockSerial (hpc : s.chan c = .acquire) (hfree : s.serial = none) :
      ChannelStep s c ({ s with serial := some (.channel c) }.setChan c .holdsSerial)
  | rejected (hpc : s.chan c = .holdsSerial) (hrundown : s.requiredRundown = true) :
      ChannelStep s c ({ s with serial := none }.setChan c .rejected)
  | lockMutex (hpc : s.chan c = .holdsSerial) (hrundown : s.requiredRundown = false)
      (hfree : s.mutex = none) :
      ChannelStep s c ({ s with
        serial := none
        mutex := some (.channel c) }.setChan c .holdsMutex)
  | add (hpc : s.chan c = .holdsMutex) :
      ChannelStep s c ({ s with
        mutex := none
        channelThreads := s.channelThreads ++ [c]
        added := s.added ++ [c] }.setChan c .signalAll)
  | signalAll (hpc : s.chan c = .signalAll) :
      ChannelStep s c ({ s with
        gateAllChannelRepeatsConnected := s.gateAllChannelRepeatsConnected.increment }.setChan c
          (if s.gateAllChannelRepeatsConnected.increment.reached then .setAll else .waitReady))
  | setAll (hpc : s.chan c = .setAll) :
      ChannelStep s c ({ s with
        gateAllChannelRepeatsConnected := s.gateAllChannelRepeatsConnected.set }.setChan c
          .waitReady)
  | waitReady (hpc : s.chan c = .waitReady) (hset : s.gatePortalReadyToTransfer.isSet = true) :
      ChannelStep s c (s.setChan c .check)
  | checkDisposed (hpc : s.chan c = .check) (hd : s.disposer ≠ .idle) :
      ChannelStep s c (s.setChan c (.exit false))
  | checkNormal (hpc : s.chan c = .check) (hd : s.disposer = .idle) :
      ChannelStep s c (s.setChan c .assertTransfer)
  | assertNull (hpc : s.chan c = .assertTransfer) (htransfer : s.transfer = none) :
      ChannelStep s c (s.crash .nullTransfer)
  | assertTransfer (hpc : s.chan c = .assertTransfer) (htransfer : s.transfer.isSome) :
      ChannelStep s c (s.setChan c .invoke)
  | invokeNull (hpc : s.chan c = .invoke) (htransfer : s.transfer = none) :
      ChannelStep s c (s.crash .nullTransfer)
  | invoke {kind} (hpc : s.chan c = .invoke) (htransfer : s.transfer = some kind) :
      ChannelStep s c (s.setChan c (.transferring kind))
  | transferred {kind result} (hpc : s.chan c = .transferring kind)
      (hopen : result = true → s.chanOpen c = true) :
      ChannelStep s c (s.setChan c
        (if kind = .destination then .signalFinished result else .exit result))
  | signalFinished {result} (hpc : s.chan c = .signalFinished result) :
      ChannelStep s c ({ s with
        gateAllChannelsFinished := s.gateAllChannelsFinished.increment }.setChan c
          (if s.gateAllChannelsFinished.increment.reached then .setFinished result
            else .exit result))
  | setFinished {result} (hpc : s.chan c = .setFinished result) :
      ChannelStep s c ({ s with
        gateAllChannelsFinished := s.gateAllChannelsFinished.set }.setChan c (.exit result))
  | exit {result} (hpc : s.chan c = .exit result) :
      ChannelStep s c ((if result then s else s.startDispose).setChan c .done)

/-- The steps of the disposing thread. -/
inductive DisposeStep (s : State) : State → Prop where
  | disposeSocket (hd : s.disposer = .disposeSocket) :
      DisposeStep s ({ s with socketOpen := false }.setDisposer .resetSocket)
  | resetSocket (hd : s.disposer = .resetSocket) :
      DisposeStep s ({ s with socket := false }.setDisposer .forceAll)
  | forceAll (hd : s.disposer = .forceAll) :
      DisposeStep s ({ s with
        gateAllChannelRepeatsConnected := s.gateAllChannelRepeatsConnected.force }.setDisposer
          .setAll)
  | setAll (hd : s.disposer = .setAll) :
      DisposeStep s ({ s with
        gateAllChannelRepeatsConnected := s.gateAllChannelRepeatsConnected.set }.setDisposer
          .forceReady)
  | forceReady (hd : s.disposer = .forceReady) :
      DisposeStep s ({ s with
        gatePortalReadyToTransfer := s.gatePortalReadyToTransfer.force }.setDisposer .setReady)
  | setReady (hd : s.disposer = .setReady) :
      DisposeStep s ({ s with
        gatePortalReadyToTransfer := s.gatePortalReadyToTransfer.set }.setDisposer .ifTransfer)
  | ifTransfer (hd : s.disposer = .ifTransfer) (htransfer : s.transfer.isSome) :
      DisposeStep s (s.setDisposer .disposeTransfer)
  | noTransfer (hd : s.disposer = .ifTransfer) (htransfer : s.transfer = none) :
      DisposeStep s (s.setDisposer .joinPortal)
  | forceFinished (hd : s.disposer = .disposeTransfer)
      (htransfer : s.transfer = some .destination)
      (hgate : s.gateAllChannelsFinished.initialized = true) :
      DisposeStep s ({ s with
        gateAllChannelsFinished := s.gateAllChannelsFinished.force }.setDisposer .setFinished)
  | disposeTransfer (hd : s.disposer = .disposeTransfer)
      (hgate : s.transfer = some .destination →
        s.gateAllChannelsFinished.initialized = false) :
      DisposeStep s (s.setDisposer .resetTransfer)
  | setFinished (hd : s.disposer = .setFinished) :
      DisposeStep s ({ s with
        gateAllChannelsFinished := s.gateAllChannelsFinished.set }.setDisposer .resetTransfer)
  | resetTransfer (hd : s.disposer = .resetTransfer) :
      DisposeStep s ({ s with transfer := none }.setDisposer .joinPortal)
  | joinPortal (hd : s.disposer = .joinPortal) (hdone : s.portal = .done) :
      DisposeStep s (s.setDisposer .lockSerial)
  | lockSerial (hd : s.disposer = .lockSerial) (hfree : s.serial = none) :
      DisposeStep s ({ s with
        serial := some .disposer
        requiredRundown := true }.setDisposer .lockMutex)
  | lockMutex (hd : s.disposer = .lockMutex) (hfree : s.mutex = none) :
      DisposeStep s ({ s with
        serial := none
        mutex := some .disposer }.setDisposer (.disposeChannel s.channelThreads))
  | disposeChannel {c rest} (hd : s.disposer = .disposeChannel (c :: rest)) :
      DisposeStep s ({ s with
        chanOpen := Function.update s.chanOpen c false
        disposals := Function.update s.disposals c (s.disposals c + 1) }.setDisposer
          (.joinChannel c rest))
  | clear (hd : s.disposer = .disposeChannel []) :
      DisposeStep s ({ s with
        channelThreads := []
        mutex := none }.setDisposer .remove)
  | joinChannel {c rest} (hd : s.disposer = .joinChannel c rest) (hdone : s.chan c = .done) :
      DisposeStep s ({ s with joins := Function.update s.joins c (s.joins c + 1) }.setDisposer
        (.disposeChannel rest))
  | remove (hd : s.disposer = .remove) : DisposeStep s (s.setDisposer .done)

/-- The steps of an instance. -/
inductive Step (n : ℕ) (s : State) : Action → State → Prop where
  | portal {a s'} (ha : a = .portal ∨ (∃ ok, a = .portalOp ok) ∨ (∃ r, a = .create r) ∨
        ∃ r, a = .initialise r) (h : PortalStep n s s') : Step n s a s'
  | channel {a c s'} (ha : a = .channel c ∨ ∃ result, a = .transferred c result)
      (h : ChannelStep s c s') : Step n s a s'
  | startDispose (hd : s.disposer = .idle) : Step n s .startDispose (s.setDisposer .disposeSocket)
  | dispose {s'} (h : DisposeStep s s') : Step n s .dispose s'
  | openChannel {c} (hpeer : s.peerClosed = false) (hpc : s.chan c = .absent) :
      Step n s (.openChannel c) ({ s with opened := insert c s.opened }.setChan c .connecting)
  | loseChannel {c} (hpc : s.chan c = .connecting) :
      Step n s (.loseChannel c) (s.setChan c .lost)
  | sendRequest (hpeer : s.peerClosed = false) :
      Step n s .sendRequest { s with requestSent := true }
  | close : Step n s .close { s with peerClosed := true }

variable {n : ℕ} {s s' : State}

/-- `startDispose` as one update of the record. -/
lemma startDispose_eq (s : State) : s.startDispose =
    { s with disposer := if s.disposer = .idle then .disposeSocket else s.disposer } := by
  unfold State.startDispose
  split_ifs with hd
  · rfl
  · rfl

lemma PortalStep.of_portalStep (h : s.portalStep = some s') : PortalStep n s s' := by
  unfold State.portalStep at h
  split at h
  · next op hpc =>
    split_ifs at h with hsocket <;> cases h
    · exact .use hpc hsocket
    · exact .useNull hpc (by simpa using hsocket)
  · next hpc =>
    split_ifs at h with hset
    cases h
    exact .waitAll hpc hset
  · next hpc =>
    cases h
    split_ifs with hd
    · exact .checkDisposed hpc (by simpa [State.isDisposeRequired] using hd)
    · exact .checkNormal hpc (by simpa [State.isDisposeRequired] using hd)
  · next hpc => cases h; exact .signalReady hpc
  · next hpc => cases h; exact .setReady hpc
  · next hpc =>
    split at h
    · next htransfer => cases h; exact .invokeNull hpc htransfer
    · next kind htransfer =>
      cases hsocket : s.socket with
      | false =>
        rw [if_neg (by simp [hsocket])] at h
        cases h
        exact .invokeNullSocket hpc (by simp [htransfer]) hsocket
      | true =>
        rw [if_pos hsocket] at h
        cases h
        cases kind with
        | source => exact .invokeSource hpc htransfer hsocket
        | destination => exact .invokeDestination hpc htransfer hsocket
  · next hpc =>
    split_ifs at h with hset
    cases h
    exact .waitFinished hpc hset
  · next hpc => cases h; exact .exit hpc
  all_goals cases h

lemma PortalStep.of_portalOp {ok : Bool} (h : s.portalOp ok = some s') : PortalStep n s s' := by
  unfold State.portalOp at h
  split at h
  · next op hpc =>
    split_ifs at h with hok hopen <;> cases h
    · exact .opDone hpc hopen.1 hopen.2
    · exact .opFailed hpc
  · next hpc =>
    split_ifs at h
    cases h
    exact .exchange hpc
  · cases h

lemma PortalStep.of_create {r : Creation} (h : s.create r = some s') : PortalStep n s s' := by
  unfold State.create at h
  split at h
  · cases h; exact .create ‹_›
  · cases h; exact .createError ‹_›
  · cases h; exact .createException ‹_›
  · cases h

lemma PortalStep.of_initialise {r : Initialised} (h : s.initialise n r = some s') :
    PortalStep n s s' := by
  unfold State.initialise at h
  split at h
  · next hpc =>
    split at h
    · next htransfer => cases h; exact .createdNull hpc htransfer
    · next htransfer =>
      split_ifs at h
      cases h
      exact .createdSource hpc htransfer
    · next htransfer =>
      cases h
      refine .createdDestination hpc htransfer ?_
      cases r <;> simp
  · cases h

lemma ChannelStep.of_channelStep {c : ℕ} (h : s.channelStep c = some s') : ChannelStep s c s' := by
  unfold State.channelStep at h
  split at h
  · next hpc => cases h; exact .lookup hpc
  · next hpc =>
    split_ifs at h with hfree
    cases h
    exact .lockSerial hpc hfree
  · next hpc =>
    split_ifs at h with hrundown hfree <;> cases h
    · exact .rejected hpc hrundown
    · exact .lockMutex hpc (by simpa using hrundown) hfree
  · next hpc => cases h; exact .add hpc
  · next hpc => cases h; exact .signalAll hpc
  · next hpc => cases h; exact .setAll hpc
  · next hpc =>
    split_ifs at h with hset
    cases h
    exact .waitReady hpc hset
  · next hpc =>
    cases h
    split_ifs with hd
    · exact .checkDisposed hpc (by simpa [State.isDisposeRequired] using hd)
    · exact .checkNormal hpc (by simpa [State.isDisposeRequired] using hd)
  · next hpc =>
    split at h
    · next htransfer => cases h; exact .assertNull hpc htransfer
    · next kind htransfer => cases h; exact .assertTransfer hpc (by simp [htransfer])
  · next hpc =>
    split at h
    · next htransfer => cases h; exact .invokeNull hpc htransfer
    · next kind htransfer => cases h; exact .invoke hpc htransfer
  · next result hpc => cases h; exact .signalFinished hpc
  · next result hpc => cases h; exact .setFinished hpc
  · next result hpc => cases h; exact .exit hpc
  all_goals cases h

lemma ChannelStep.of_transferred {c : ℕ} {result : Bool} (h : s.transferred c result = some s') :
    ChannelStep s c s' := by
  unfold State.transferred at h
  split at h
  · next kind hpc =>
    by_cases hopen : result = true ∧ ¬ s.chanOpen c
    · rw [if_pos hopen] at h
      cases h
    · rw [if_neg hopen] at h
      cases h
      refine .transferred hpc fun hresult => ?_
      by_contra hclosed
      exact hopen ⟨hresult, by simpa using hclosed⟩
  · cases h

lemma DisposeStep.of_disposeStep (h : s.disposeStep = some s') : DisposeStep s s' := by
  unfold State.disposeStep at h
  split at h
  · cases h
  · cases h; exact .disposeSocket ‹_›
  · cases h; exact .resetSocket ‹_›
  · cases h; exact .forceAll ‹_›
  · cases h; exact .setAll ‹_›
  · cases h; exact .forceReady ‹_›
  · cases h; exact .setReady ‹_›
  · next hd =>
    cases h
    split_ifs with htransfer
    · exact .ifTransfer hd htransfer
    · exact .noTransfer hd (by simpa using htransfer)
  · next hd =>
    split_ifs at h with hgate <;> cases h
    · exact .forceFinished hd hgate.1 hgate.2
    · refine .disposeTransfer hd fun htransfer => ?_
      by_contra hinit
      exact hgate ⟨htransfer, by simpa using hinit⟩
  · cases h; exact .setFinished ‹_›
  · cases h; exact .resetTransfer ‹_›
  · next hd =>
    split_ifs at h with hdone
    cases h
    exact .joinPortal hd hdone
  · next hd =>
    split_ifs at h with hfree
    cases h
    exact .lockSerial hd hfree
  · next hd =>
    split_ifs at h with hfree
    cases h
    exact .lockMutex hd hfree
  · cases h; exact .disposeChannel ‹_›
  · cases h; exact .clear ‹_›
  · next hd =>
    split_ifs at h with hdone
    cases h
    exact .joinChannel hd hdone
  · cases h; exact .remove ‹_›
  · cases h

/-- A step of an instance is one of its threads', a call of `dispose`, or the client's; the process
has not ended. -/
lemma Step.of_step {a : Action} (h : s.step n a = some s') : s.fault = none ∧ Step n s a s' := by
  unfold State.step at h
  by_cases hfault : s.fault = none
  swap
  · rw [if_pos hfault] at h
    cases h
  rw [if_neg (not_not.mpr hfault)] at h
  refine ⟨hfault, ?_⟩
  cases a with
  | portal => exact .portal (.inl rfl) (.of_portalStep h)
  | portalOp ok => exact .portal (.inr (.inl ⟨ok, rfl⟩)) (.of_portalOp h)
  | create r => exact .portal (.inr (.inr (.inl ⟨r, rfl⟩))) (.of_create h)
  | initialise r => exact .portal (.inr (.inr (.inr ⟨r, rfl⟩))) (.of_initialise h)
  | channel c => exact .channel (.inl rfl) (.of_channelStep h)
  | loseChannel c =>
    simp only [State.loseChannel] at h
    split at h <;> cases h
    exact .loseChannel ‹_›
  | transferred c result => exact .channel (.inr ⟨result, rfl⟩) (.of_transferred h)
  | startDispose =>
    simp only at h
    split_ifs at h with hd
    cases h
    rw [State.startDispose, if_pos hd]
    exact .startDispose hd
  | dispose => exact .dispose (.of_disposeStep h)
  | openChannel c =>
    simp only [State.clientStep] at h
    split_ifs at h with hopen
    cases h
    exact .openChannel hopen.1 hopen.2
  | sendRequest =>
    simp only [State.clientStep] at h
    split_ifs at h with hpeer
    cases h
    exact .sendRequest (by simpa using hpeer)
  | close =>
    cases h
    exact .close

/-- A disposal that has begun never returns to `STATUS_NORMAL`. -/
lemma Step.idle {a : Action} (h : Step n s a s') (hd : s'.disposer = .idle) :
    s.disposer = .idle := by
  cases h with
  | portal _ h =>
    cases h with
    | exit =>
      rw [startDispose_eq] at hd
      dsimp only [State.setPortal] at hd
      grind -linarith
    | _ => exact hd
  | channel _ h =>
    cases h with
    | @exit result =>
      cases result with
      | true => exact hd
      | false =>
        rw [startDispose_eq] at hd
        dsimp only [State.setChan] at hd
        grind -linarith
    | _ => exact hd
  | startDispose => cases hd
  | dispose h => cases h <;> cases hd
  | openChannel | loseChannel | sendRequest | close => exact hd

end ClientInstance

end Xcp
