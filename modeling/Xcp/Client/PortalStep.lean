import Xcp.Client.Portal

/-!
# What a client can do

The steps of the threads of a client, read off the step function.
-/

namespace Xcp

namespace ClientPortal

/-- The steps of the main thread. -/
inductive MainStep (s : State) : State → Prop where
  | noTransfer (hpc : s.main = .init) : MainStep s (s.setMain .dispose)
  | notConnected (hpc : s.main = .init) :
      MainStep s ({ s with transfer := true }.setMain .dispose)
  | connected (hpc : s.main = .init) :
      MainStep s ({ s with
        transfer := true
        socket := true
        portal := .use .recvVersion }.setMain .waitExit)
  | waitExit (hpc : s.main = .waitExit) (hexit : s.exitRequired = true) :
      MainStep s (s.setMain .dispose)
  | dispose (hpc : s.main = .dispose) : MainStep s (s.startDispose.setMain .waitDispose)
  | waitDispose (hpc : s.main = .waitDispose) (hd : s.disposer = .done) :
      MainStep s (s.setMain .read)
  | read (hpc : s.main = .read) :
      MainStep s ({ s with read := some s.transferResultStatus }.setMain .done)

/-- The steps of the portal thread. -/
inductive PortalStep (isFromServerToClient : Bool) (s : State) : State → Prop where
  | use {op} (hpc : s.portal = .use op) (hsocket : s.socket = true) :
      PortalStep isFromServerToClient s (s.setPortal (.inside op))
  | useNull {op} (hpc : s.portal = .use op) (hsocket : s.socket = false) :
      PortalStep isFromServerToClient s (s.crash .nullSocket)
  | information {total} (hpc : s.portal = .inside .recvInformation) (hopen : s.socketOpen = true)
      (htotal : total < 2 ^ 64) :
      PortalStep isFromServerToClient s ({ s with total := total }.setPortal (.creating 0))
  | recvVersion (hpc : s.portal = .inside .recvVersion) (hopen : s.socketOpen = true) :
      PortalStep isFromServerToClient s (s.setPortal (.use .recvInformation))
  | sendRequest (hpc : s.portal = .inside .sendRequest) (hopen : s.socketOpen = true) :
      PortalStep isFromServerToClient s (s.setPortal (.use .recvResponse))
  | recvResponse (hpc : s.portal = .inside .recvResponse) (hopen : s.socketOpen = true) :
      PortalStep isFromServerToClient s
        (s.setPortal (if isFromServerToClient then .initInfo else .setCallback))
  | opFailed {op} (hpc : s.portal = .inside op) :
      PortalStep isFromServerToClient s (s.setPortal .exit)
  | create {k} (hpc : s.portal = .creating k) (hk : k < s.total) :
      PortalStep isFromServerToClient s ((s.setChan k .connecting).setPortal (.adding k))
  | created {k} (hpc : s.portal = .creating k) (hk : s.total ≤ k) :
      PortalStep isFromServerToClient s
        (s.setPortal (if isFromServerToClient then .use .sendRequest else .buildRequest))
  | add {k} (hpc : s.portal = .adding k) (hrundown : s.requiredRundown = false) :
      PortalStep isFromServerToClient s
        ({ s with channels := s.channels ++ [k] }.setPortal (.creating (k + 1)))
  | refuse {k} (hpc : s.portal = .adding k) (hrundown : s.requiredRundown = true) :
      PortalStep isFromServerToClient s (s.setPortal (.refused k))
  | refused {k} (hpc : s.portal = .refused k) :
      PortalStep isFromServerToClient s
        ({ s with chanOpen := Function.update s.chanOpen k false }.setPortal (.joining k))
  | joined {k} (hpc : s.portal = .joining k) (hdone : s.chan k = .done) :
      PortalStep isFromServerToClient s (s.setPortal .exit)
  | transferNull (hpc : s.portal = .buildRequest ∨ s.portal = .initInfo ∨
        s.portal = .setCallback ∨ s.portal = .assertTransfer ∨ s.portal = .invoke)
      (htransfer : s.transfer = false) :
      PortalStep isFromServerToClient s (s.crash .nullTransfer)
  | buildRequest (hpc : s.portal = .buildRequest) (htransfer : s.transfer = true) :
      PortalStep isFromServerToClient s (s.setPortal (.use .sendRequest))
  | initInfo {pc} (hpc : s.portal = .initInfo) (htransfer : s.transfer = true)
      (htotal : 0 < s.total) (hvalid : s.total < invalidSignalCount)
      (hpc' : pc = .setCallback ∨ pc = .exit) :
      PortalStep isFromServerToClient s ({ s with
        gateAllChannelsFinished := { atLeastSignal := s.total } }.setPortal pc)
  | signalCount (hpc : s.portal = .initInfo) :
      PortalStep isFromServerToClient s (s.crash .signalCount)
  | setCallback (hpc : s.portal = .setCallback) (htransfer : s.transfer = true) :
      PortalStep isFromServerToClient s (s.setPortal .signalReady)
  | signalReady (hpc : s.portal = .signalReady) :
      PortalStep isFromServerToClient s ({ s with
        gateClientPortalReady := s.gateClientPortalReady.increment }.setPortal
          (if s.gateClientPortalReady.increment.reached then .setReady else .assertTransfer))
  | setReady (hpc : s.portal = .setReady) :
      PortalStep isFromServerToClient s ({ s with
        gateClientPortalReady := s.gateClientPortalReady.set }.setPortal .assertTransfer)
  | assertTransfer (hpc : s.portal = .assertTransfer) (htransfer : s.transfer = true) :
      PortalStep isFromServerToClient s (s.setPortal .invoke)
  | invoke (hpc : s.portal = .invoke) (htransfer : s.transfer = true) (hsocket : s.socket = true) :
      PortalStep isFromServerToClient s
        (s.setPortal (if isFromServerToClient then .waitFinished else .exchange))
  | invokeNullSocket (hpc : s.portal = .invoke) (hsocket : s.socket = false) :
      PortalStep isFromServerToClient s (s.crash .nullSocket)
  | waitFinished (hpc : s.portal = .waitFinished)
      (hset : s.gateAllChannelsFinished.isSet = true) :
      PortalStep isFromServerToClient s (s.setPortal .exchange)
  | exchange {result} (hpc : s.portal = .exchange) (hopen : result = true → s.socketOpen = true) :
      PortalStep isFromServerToClient s
        ({ s with portalResult := some result }.setPortal (.storeStatus result))
  | storeFailed (hpc : s.portal = .storeStatus false) :
      PortalStep isFromServerToClient s
        ({ s with transferResultStatus := .failed }.setPortal .exit)
  | storeSucceeded (hpc : s.portal = .storeStatus true) (hstatus : s.transferResultStatus = .unknown) :
      PortalStep isFromServerToClient s
        ({ s with transferResultStatus := .succeeded }.setPortal .exit)
  | storeNothing (hpc : s.portal = .storeStatus true) (hstatus : s.transferResultStatus ≠ .unknown) :
      PortalStep isFromServerToClient s (s.setPortal .exit)
  | exit (hpc : s.portal = .exit) :
      PortalStep isFromServerToClient s (s.startDispose.setPortal .requireExit)
  | requireExit (hpc : s.portal = .requireExit) :
      PortalStep isFromServerToClient s ({ s with exitRequired := true }.setPortal .done)

/-- The steps of the thread of channel `c`. -/
inductive ChannelStep (isFromServerToClient : Bool) (s : State) (c : ℕ) : State → Prop where
  | connected (hpc : s.chan c = .connecting) :
      ChannelStep isFromServerToClient s c (s.setChan c .waitReady)
  | notConnected (hpc : s.chan c = .connecting) :
      ChannelStep isFromServerToClient s c (s.setChan c (.exit false))
  | waitReady (hpc : s.chan c = .waitReady) (hset : s.gateClientPortalReady.isSet = true) :
      ChannelStep isFromServerToClient s c (s.setChan c .check)
  | checkDisposed (hpc : s.chan c = .check) (hd : s.disposer ≠ .idle) :
      ChannelStep isFromServerToClient s c (s.setChan c (.exit false))
  | checkNormal (hpc : s.chan c = .check) (hd : s.disposer = .idle) :
      ChannelStep isFromServerToClient s c (s.setChan c .assertTransfer)
  | transferNull (hpc : s.chan c = .assertTransfer ∨ s.chan c = .invoke)
      (htransfer : s.transfer = false) :
      ChannelStep isFromServerToClient s c (s.crash .nullTransfer)
  | assertTransfer (hpc : s.chan c = .assertTransfer) (htransfer : s.transfer = true) :
      ChannelStep isFromServerToClient s c (s.setChan c .invoke)
  | invoke (hpc : s.chan c = .invoke) (htransfer : s.transfer = true) :
      ChannelStep isFromServerToClient s c (s.setChan c .transferring)
  | transferred {result} (hpc : s.chan c = .transferring)
      (hopen : result = true → s.chanOpen c = true) :
      ChannelStep isFromServerToClient s c
        ({ s with channelResult := Function.update s.channelResult c (some result) }.setChan c
          (if isFromServerToClient then .signalFinished result else .storeStatus result))
  | signalFinished {result} (hpc : s.chan c = .signalFinished result) :
      ChannelStep isFromServerToClient s c ({ s with
        gateAllChannelsFinished := s.gateAllChannelsFinished.increment }.setChan c
          (if s.gateAllChannelsFinished.increment.reached then .setFinished result
            else .storeStatus result))
  | setFinished {result} (hpc : s.chan c = .setFinished result) :
      ChannelStep isFromServerToClient s c ({ s with
        gateAllChannelsFinished := s.gateAllChannelsFinished.set }.setChan c
          (.storeStatus result))
  | storeFailed (hpc : s.chan c = .storeStatus false) :
      ChannelStep isFromServerToClient s c
        ({ s with transferResultStatus := .failed }.setChan c (.exit false))
  | storeNothing (hpc : s.chan c = .storeStatus true) :
      ChannelStep isFromServerToClient s c (s.setChan c (.exit true))
  | exit {success} (hpc : s.chan c = .exit success) :
      ChannelStep isFromServerToClient s c
        ((if success then s else s.startDispose).setChan c .done)

/-- The steps of the disposing thread. -/
inductive DisposeStep (s : State) : State → Prop where
  | disposeSocket (hd : s.disposer = .disposeSocket) :
      DisposeStep s ({ s with socketOpen := false }.setDisposer .resetSocket)
  | resetSocket (hd : s.disposer = .resetSocket) :
      DisposeStep s ({ s with socket := false }.setDisposer .ifTransfer)
  | ifTransfer (hd : s.disposer = .ifTransfer) (htransfer : s.transfer = true) :
      DisposeStep s (s.setDisposer .disposeTransfer)
  | noTransfer (hd : s.disposer = .ifTransfer) (htransfer : s.transfer = false) :
      DisposeStep s (s.setDisposer .forceReady)
  | forceFinished (hd : s.disposer = .disposeTransfer)
      (hgate : s.gateAllChannelsFinished.initialized = true) :
      DisposeStep s ({ s with
        gateAllChannelsFinished := s.gateAllChannelsFinished.force }.setDisposer .setFinished)
  | disposeTransfer (hd : s.disposer = .disposeTransfer)
      (hgate : s.gateAllChannelsFinished.initialized = false) :
      DisposeStep s (s.setDisposer .resetTransfer)
  | setFinished (hd : s.disposer = .setFinished) :
      DisposeStep s ({ s with
        gateAllChannelsFinished := s.gateAllChannelsFinished.set }.setDisposer .resetTransfer)
  | resetTransfer (hd : s.disposer = .resetTransfer) :
      DisposeStep s ({ s with transfer := false }.setDisposer .forceReady)
  | forceReady (hd : s.disposer = .forceReady) :
      DisposeStep s ({ s with
        gateClientPortalReady := s.gateClientPortalReady.force }.setDisposer .setReady)
  | setReady (hd : s.disposer = .setReady) :
      DisposeStep s ({ s with
        gateClientPortalReady := s.gateClientPortalReady.set }.setDisposer .joinPortal)
  | joinPortal (hd : s.disposer = .joinPortal) (hdone : s.portal = .done ∨ s.portal = .absent) :
      DisposeStep s (s.setDisposer .acquireRundown)
  | acquireRundown (hd : s.disposer = .acquireRundown) :
      DisposeStep s ({ s with requiredRundown := true }.setDisposer (.disposeChannel s.channels))
  | disposeChannel {c rest} (hd : s.disposer = .disposeChannel (c :: rest)) :
      DisposeStep s ({ s with chanOpen := Function.update s.chanOpen c false }.setDisposer
        (.joinChannel c rest))
  | clear (hd : s.disposer = .disposeChannel []) :
      DisposeStep s ({ s with channels := [] }.setDisposer .done)
  | joinChannel {c rest} (hd : s.disposer = .joinChannel c rest) (hdone : s.chan c = .done) :
      DisposeStep s (s.setDisposer (.disposeChannel rest))

/-- The steps of a client. -/
inductive Step (isFromServerToClient : Bool) (s : State) (a : Action) : State → Prop where
  | main {s'} (h : MainStep s s') : Step isFromServerToClient s a s'
  | signal : Step isFromServerToClient s a { s with exitRequired := true }
  | portal {s'} (h : PortalStep isFromServerToClient s s') : Step isFromServerToClient s a s'
  | channel {c s'} (h : ChannelStep isFromServerToClient s c s') : Step isFromServerToClient s a s'
  | dispose {s'} (ha : a = .dispose) (h : DisposeStep s s') : Step isFromServerToClient s a s'

variable {isFromServerToClient : Bool} {s s' : State}

/-- `startDispose` as one update of the record. -/
lemma startDispose_eq (s : State) : s.startDispose =
    { s with disposer := if s.disposer = .idle then .disposeSocket else s.disposer } := by
  unfold State.startDispose
  split_ifs with hd
  · rfl
  · rfl

lemma MainStep.of_init {r : Initialised} (h : s.init r = some s') : MainStep s s' := by
  unfold State.init at h
  split_ifs at h with hpc
  cases r <;> cases h
  · exact .noTransfer hpc
  · exact .notConnected hpc
  · exact .connected hpc

lemma MainStep.of_mainStep (h : s.mainStep = some s') : MainStep s s' := by
  unfold State.mainStep at h
  split at h
  · next hpc =>
    split_ifs at h with hexit
    cases h
    exact .waitExit hpc hexit
  · next hpc => cases h; exact .dispose hpc
  · next hpc =>
    split_ifs at h with hd
    cases h
    exact .waitDispose hpc hd
  · next hpc => cases h; exact .read hpc
  all_goals cases h

lemma PortalStep.of_portalStep (h : s.portalStep isFromServerToClient = some s') :
    PortalStep isFromServerToClient s s' := by
  unfold State.portalStep at h
  split at h
  · next op hpc =>
    split_ifs at h with hsocket <;> cases h
    · exact .use hpc hsocket
    · exact .useNull hpc (by simpa using hsocket)
  · next k hpc =>
    by_cases hk : k < s.total
    · rw [if_pos hk] at h
      cases h
      exact .create hpc hk
    · rw [if_neg hk] at h
      cases h
      exact .created hpc (Nat.le_of_not_lt hk)
  · next k hpc =>
    split_ifs at h with hrundown <;> cases h
    · exact .refuse hpc hrundown
    · exact .add hpc (by simpa using hrundown)
  · next k hpc => cases h; exact .refused hpc
  · next k hpc =>
    split_ifs at h with hdone
    cases h
    exact .joined hpc hdone
  · next hpc =>
    split_ifs at h with htransfer <;> cases h
    · exact .buildRequest hpc htransfer
    · exact .transferNull (.inl hpc) (by simpa using htransfer)
  · next hpc =>
    split_ifs at h with htransfer <;> cases h
    · exact .setCallback hpc htransfer
    · exact .transferNull (.inr (.inr (.inl hpc))) (by simpa using htransfer)
  · next hpc => cases h; exact .signalReady hpc
  · next hpc => cases h; exact .setReady hpc
  · next hpc =>
    split_ifs at h with htransfer <;> cases h
    · exact .assertTransfer hpc htransfer
    · exact .transferNull (.inr (.inr (.inr (.inl hpc)))) (by simpa using htransfer)
  · next hpc =>
    cases htransfer : s.transfer with
    | false =>
      rw [if_neg (by simp [htransfer])] at h
      cases h
      exact .transferNull (.inr (.inr (.inr (.inr hpc)))) htransfer
    | true =>
      rw [if_pos htransfer] at h
      cases hsocket : s.socket with
      | false =>
        rw [if_neg (by simp [hsocket])] at h
        cases h
        exact .invokeNullSocket hpc hsocket
      | true =>
        rw [if_pos hsocket] at h
        cases h
        exact .invoke hpc htransfer hsocket
  · next hpc =>
    split_ifs at h with hset
    cases h
    exact .waitFinished hpc hset
  · next result hpc =>
    cases h
    cases result with
    | false => exact .storeFailed hpc
    | true =>
      by_cases hstatus : s.transferResultStatus = .unknown
      · simpa [hstatus] using PortalStep.storeSucceeded hpc hstatus
      · simpa [hstatus] using PortalStep.storeNothing hpc hstatus
  · next hpc => cases h; exact .exit hpc
  · next hpc => cases h; exact .requireExit hpc
  all_goals cases h

lemma PortalStep.of_information {total : ℕ} (h : s.information total = some s') :
    PortalStep isFromServerToClient s s' := by
  unfold State.information at h
  split_ifs at h with hpc
  cases h
  exact .information hpc.1 hpc.2.1 hpc.2.2

lemma PortalStep.of_portalOp {ok : Bool} (h : s.portalOp isFromServerToClient ok = some s') :
    PortalStep isFromServerToClient s s' := by
  unfold State.portalOp at h
  split at h
  · next op hpc =>
    cases ok with
    | false =>
      cases h
      exact .opFailed hpc
    | true =>
      rw [if_pos rfl] at h
      cases hopen : s.socketOpen with
      | false =>
        rw [if_neg (by simp [hopen])] at h
        cases h
      | true =>
        rw [if_pos hopen] at h
        cases op with
        | recvVersion => cases h; exact .recvVersion hpc hopen
        | recvInformation => cases h
        | sendRequest => cases h; exact .sendRequest hpc hopen
        | recvResponse => cases h; exact .recvResponse hpc hopen
  · next hpc =>
    by_cases hopen : ok = true ∧ ¬ s.socketOpen
    · rw [if_pos hopen] at h
      cases h
    · rw [if_neg hopen] at h
      cases h
      refine .exchange hpc fun hok => ?_
      by_contra hclosed
      exact hopen ⟨hok, hclosed⟩
  · cases h

lemma PortalStep.of_initInfo {ok : Bool} (h : s.initInfo ok = some s') :
    PortalStep isFromServerToClient s s' := by
  unfold State.initInfo at h
  by_cases hpc : s.portal = .initInfo
  swap
  · rw [if_neg hpc] at h
    cases h
  rw [if_pos hpc] at h
  cases htransfer : s.transfer with
  | false =>
    rw [if_neg (by simp [htransfer])] at h
    cases h
    exact .transferNull (.inr (.inl hpc)) htransfer
  | true =>
    rw [if_pos htransfer] at h
    by_cases htotal : 0 < s.total ∧ s.total < invalidSignalCount
    · rw [if_pos htotal] at h
      cases h
      refine .initInfo hpc htransfer htotal.1 htotal.2 ?_
      cases ok <;> simp
    · rw [if_neg htotal] at h
      cases h
      exact .signalCount hpc

lemma ChannelStep.of_channelStep {c : ℕ} (h : s.channelStep c = some s') :
    ChannelStep isFromServerToClient s c s' := by
  unfold State.channelStep at h
  split at h
  · next hpc =>
    split_ifs at h with hset
    cases h
    exact .waitReady hpc hset
  · next hpc =>
    cases h
    split_ifs with hd
    · exact .checkDisposed hpc (by simpa [State.isDisposeRequired] using hd)
    · exact .checkNormal hpc (by simpa [State.isDisposeRequired] using hd)
  · next hpc =>
    split_ifs at h with htransfer <;> cases h
    · exact .assertTransfer hpc htransfer
    · exact .transferNull (.inl hpc) (by simpa using htransfer)
  · next hpc =>
    split_ifs at h with htransfer <;> cases h
    · exact .invoke hpc htransfer
    · exact .transferNull (.inr hpc) (by simpa using htransfer)
  · next result hpc => cases h; exact .signalFinished hpc
  · next result hpc => cases h; exact .setFinished hpc
  · next result hpc =>
    cases h
    cases result with
    | false => exact .storeFailed hpc
    | true => exact .storeNothing hpc
  · next success hpc => cases h; exact .exit hpc
  all_goals cases h

lemma ChannelStep.of_connected {c : ℕ} {ok : Bool} (h : s.connected c ok = some s') :
    ChannelStep isFromServerToClient s c s' := by
  unfold State.connected at h
  split_ifs at h with hpc hok <;> cases h
  · exact .connected hpc
  · exact .notConnected hpc

lemma ChannelStep.of_transferred {c : ℕ} {result : Bool}
    (h : s.transferred isFromServerToClient c result = some s') :
    ChannelStep isFromServerToClient s c s' := by
  unfold State.transferred at h
  by_cases hpc : s.chan c = .transferring ∧ (result → s.chanOpen c)
  · rw [if_pos hpc] at h
    cases h
    exact .transferred hpc.1 hpc.2
  · rw [if_neg hpc] at h
    cases h

lemma DisposeStep.of_disposeStep (h : s.disposeStep = some s') : DisposeStep s s' := by
  unfold State.disposeStep at h
  split at h
  · cases h
  · cases h; exact .disposeSocket ‹_›
  · cases h; exact .resetSocket ‹_›
  · next hd =>
    cases h
    split_ifs with htransfer
    · exact .ifTransfer hd htransfer
    · exact .noTransfer hd (by simpa using htransfer)
  · next hd =>
    split_ifs at h with hgate <;> cases h
    · exact .forceFinished hd hgate
    · exact .disposeTransfer hd (Bool.eq_false_iff.mpr hgate)
  · cases h; exact .setFinished ‹_›
  · cases h; exact .resetTransfer ‹_›
  · cases h; exact .forceReady ‹_›
  · cases h; exact .setReady ‹_›
  · next hd =>
    split_ifs at h with hdone
    cases h
    exact .joinPortal hd hdone
  · cases h; exact .acquireRundown ‹_›
  · cases h; exact .disposeChannel ‹_›
  · cases h; exact .clear ‹_›
  · next hd =>
    split_ifs at h with hdone
    cases h
    exact .joinChannel hd hdone
  · cases h

/-- A step of a client is one of its threads' or a signal, and the process has not ended. -/
lemma Step.of_step {a : Action} (h : s.step isFromServerToClient a = some s') :
    s.fault = none ∧ Step isFromServerToClient s a s' := by
  unfold State.step at h
  by_cases hfault : s.fault = none
  swap
  · rw [if_pos hfault] at h
    cases h
  rw [if_neg (not_not.mpr hfault)] at h
  refine ⟨hfault, ?_⟩
  cases a with
  | init r => exact .main (.of_init h)
  | main => exact .main (.of_mainStep h)
  | signal => cases h; exact .signal
  | portal => exact .portal (.of_portalStep h)
  | information total => exact .portal (.of_information h)
  | portalOp ok => exact .portal (.of_portalOp h)
  | initInfo ok => exact .portal (.of_initInfo h)
  | channel c => exact .channel (.of_channelStep h)
  | connected c ok => exact .channel (.of_connected h)
  | transferred c result => exact .channel (.of_transferred h)
  | dispose => exact .dispose rfl (.of_disposeStep h)

end ClientPortal

end Xcp
