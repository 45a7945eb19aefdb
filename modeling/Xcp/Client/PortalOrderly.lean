import Xcp.Client.PortalStatus

/-!
# A client in order

A run of the client in which nothing fails: its operations are answered with success, no signal
arrives, and what the portals exchange at the end is exchanged only after all channels have
transferred. In such a run the client disposes itself only at the end, so that its own disposal fails
none of its threads.
-/

namespace Xcp

namespace ClientPortal

/-- Every answer is a success, and the last exchange waits for the channels. -/
def Orderly (s : State) : Action → Prop
  | .init r => r = .connected
  | .signal => False
  | .information total => 0 < total ∧ total < invalidSignalCount
  | .portalOp ok =>
    ok = true ∧ (s.portal = .exchange → ∀ c < s.total, s.channelResult c = some true)
  | .initInfo ok | .connected _ ok => ok = true
  | .transferred _ result => result = true
  | .main | .portal | .channel _ | .dispose => True

/-! ### What an orderly client can do -/

/-- The thread of the portal needs no answer. -/
def PortalPc.Runs : PortalPc → Prop
  | .inside _ | .exchange | .initInfo => False
  | _ => True

/-- The thread of a channel needs no answer. -/
def ChannelPc.Runs : ChannelPc → Prop
  | .connecting | .transferring => False
  | _ => True

attribute [grind =] PortalPc.Runs ChannelPc.Runs

/-- The steps of an orderly client. -/
inductive OrderlyStep (isFromServerToClient : Bool) (s : State) : State → Prop where
  | init (hpc : s.main = .init) :
      OrderlyStep isFromServerToClient s ({ s with
        transfer := true
        socket := true
        portal := .use .recvVersion }.setMain .waitExit)
  | main {s'} (hpc : s.main ≠ .init) (h : MainStep s s') : OrderlyStep isFromServerToClient s s'
  | portal {s'} (hpc : s.portal.Runs) (h : PortalStep isFromServerToClient s s') :
      OrderlyStep isFromServerToClient s s'
  | information {total} (hpc : s.portal = .inside .recvInformation) (hopen : s.socketOpen = true)
      (hpos : 0 < total) (hvalid : total < invalidSignalCount) :
      OrderlyStep isFromServerToClient s ({ s with total := total }.setPortal (.creating 0))
  | recvVersion (hpc : s.portal = .inside .recvVersion) (hopen : s.socketOpen = true) :
      OrderlyStep isFromServerToClient s (s.setPortal (.use .recvInformation))
  | sendRequest (hpc : s.portal = .inside .sendRequest) (hopen : s.socketOpen = true) :
      OrderlyStep isFromServerToClient s (s.setPortal (.use .recvResponse))
  | recvResponse (hpc : s.portal = .inside .recvResponse) (hopen : s.socketOpen = true) :
      OrderlyStep isFromServerToClient s
        (s.setPortal (if isFromServerToClient then .initInfo else .setCallback))
  | initInfo (hpc : s.portal = .initInfo) (htransfer : s.transfer = true) (hpos : 0 < s.total)
      (hvalid : s.total < invalidSignalCount) :
      OrderlyStep isFromServerToClient s ({ s with
        gateAllChannelsFinished := { atLeastSignal := s.total } }.setPortal .setCallback)
  | initInfoFault {f} (hpc : s.portal = .initInfo)
      (hf : s.transfer = false ∨ ¬ (0 < s.total ∧ s.total < invalidSignalCount)) :
      OrderlyStep isFromServerToClient s (s.crash f)
  | exchange (hpc : s.portal = .exchange) (hopen : s.socketOpen = true)
      (hall : ∀ c < s.total, s.channelResult c = some true) :
      OrderlyStep isFromServerToClient s
        ({ s with portalResult := some true }.setPortal (.storeStatus true))
  | channel {c s'} (hpc : (s.chan c).Runs) (h : ChannelStep isFromServerToClient s c s') :
      OrderlyStep isFromServerToClient s s'
  | connected {c} (hpc : s.chan c = .connecting) :
      OrderlyStep isFromServerToClient s (s.setChan c .waitReady)
  | transferred {c} (hpc : s.chan c = .transferring) (hopen : s.chanOpen c = true) :
      OrderlyStep isFromServerToClient s
        ({ s with channelResult := Function.update s.channelResult c (some true) }.setChan c
          (if isFromServerToClient then .signalFinished true else .storeStatus true))
  | dispose {s'} (h : DisposeStep s s') : OrderlyStep isFromServerToClient s s'

variable {isFromServerToClient : Bool} {s s' : State} {a : Action}

lemma OrderlyStep.of_portalOp (hwait : s.portal = .exchange →
      ∀ c < s.total, s.channelResult c = some true)
    (h : s.portalOp isFromServerToClient true = some s') :
    OrderlyStep isFromServerToClient s s' := by
  unfold State.portalOp at h
  split at h
  · next op hpc =>
    cases hopen : s.socketOpen with
    | false => simp [hopen] at h
    | true =>
      rw [if_pos rfl, if_pos hopen] at h
      cases op with
      | recvVersion => cases h; exact .recvVersion hpc hopen
      | recvInformation => cases h
      | sendRequest => cases h; exact .sendRequest hpc hopen
      | recvResponse => cases h; exact .recvResponse hpc hopen
  · next hpc =>
    split_ifs at h with hopen
    cases h
    exact .exchange hpc (by simpa using hopen) (hwait hpc)
  · cases h

lemma OrderlyStep.of_initInfo (h : s.initInfo true = some s') :
    OrderlyStep isFromServerToClient s s' := by
  unfold State.initInfo at h
  by_cases hpc : s.portal = .initInfo
  swap
  · rw [if_neg hpc] at h
    cases h
  rw [if_pos hpc] at h
  cases htransfer : s.transfer with
  | false =>
    rw [if_neg (by simp [htransfer])] at h
    cases h
    exact .initInfoFault hpc (.inl htransfer)
  | true =>
    rw [if_pos htransfer] at h
    by_cases htotal : 0 < s.total ∧ s.total < invalidSignalCount
    · rw [if_pos htotal] at h
      cases h
      exact .initInfo hpc htransfer htotal.1 htotal.2
    · rw [if_neg htotal] at h
      cases h
      exact .initInfoFault hpc (.inr htotal)

lemma portal_runs (h : (s.portalStep isFromServerToClient).isSome) : s.portal.Runs := by
  unfold State.portalStep at h
  cases hpc : s.portal with
  | inside | exchange | initInfo => simp [hpc] at h
  | _ => trivial

lemma channel_runs {c : ℕ} (h : (s.channelStep c).isSome) : (s.chan c).Runs := by
  unfold State.channelStep at h
  cases hpc : s.chan c with
  | connecting | transferring => simp [hpc] at h
  | _ => trivial

/-- An orderly step is listed, and the process has not ended. -/
lemma OrderlyStep.of_step (ha : Orderly s a) (h : s.step isFromServerToClient a = some s') :
    s.fault = none ∧ OrderlyStep isFromServerToClient s s' := by
  unfold State.step at h
  by_cases hfault : s.fault = none
  swap
  · rw [if_pos hfault] at h
    cases h
  rw [if_neg (not_not.mpr hfault)] at h
  refine ⟨hfault, ?_⟩
  cases a with
  | init r =>
    obtain rfl : r = .connected := ha
    replace h : s.init .connected = some s' := h
    unfold State.init at h
    split_ifs at h with hpc
    cases h
    exact .init hpc
  | main =>
    replace h : s.mainStep = some s' := h
    refine .main (fun hpc => ?_) (.of_mainStep h)
    rw [State.mainStep, hpc] at h
    cases h
  | signal => exact ha.elim
  | portal =>
    replace h : s.portalStep isFromServerToClient = some s' := h
    exact .portal (portal_runs (Option.isSome_of_eq_some h)) (.of_portalStep h)
  | information total =>
    replace h : s.information total = some s' := h
    unfold State.information at h
    split_ifs at h with hpc
    cases h
    exact .information hpc.1 hpc.2.1 ha.1 ha.2
  | portalOp ok =>
    obtain ⟨rfl, hwait⟩ := ha
    exact .of_portalOp hwait h
  | initInfo ok =>
    obtain rfl : ok = true := ha
    exact .of_initInfo h
  | channel c =>
    replace h : s.channelStep c = some s' := h
    exact .channel (channel_runs (Option.isSome_of_eq_some h)) (.of_channelStep h)
  | connected c ok =>
    obtain rfl : ok = true := ha
    replace h : s.connected c true = some s' := h
    by_cases hpc : s.chan c = .connecting
    · rw [State.connected, if_pos hpc] at h
      cases h
      exact .connected hpc
    · rw [State.connected, if_neg hpc] at h
      cases h
  | transferred c result =>
    obtain rfl : result = true := ha
    replace h : s.transferred isFromServerToClient c true = some s' := h
    by_cases hpc : s.chan c = .transferring ∧ (true = true → s.chanOpen c = true)
    · rw [State.transferred, if_pos hpc] at h
      cases h
      exact .transferred hpc.1 (hpc.2 rfl)
    · rw [State.transferred, if_neg hpc] at h
      cases h
  | dispose => exact .dispose (.of_disposeStep h)

/-! ### What holds of an orderly client -/

/-- The portal thread has exchanged the report. -/
def PortalPc.PastExchange : PortalPc → Prop
  | .storeStatus _ | .exit | .requireExit | .done => True
  | _ => False

/-- The thread of a channel has left the loop of `invoke_channel`. -/
def ChannelPc.Left : ChannelPc → Prop
  | .signalFinished _ | .setFinished _ | .storeStatus _ | .exit _ | .done => True
  | _ => False

/-- The portal thread has started all channels. -/
def PortalPc.PastCreating (pc : PortalPc) : Prop :=
  ¬ pc.BeforeChannels ∧ (∀ k, pc ≠ .creating k) ∧ ∀ k, pc ≠ .adding k

attribute [grind =] PortalPc.PastExchange ChannelPc.Left
attribute [grind] PortalPc.PastCreating

/-- The first signal sets the gate of a ready portal. -/
@[grind .] lemma reached_ready : ({ atLeastSignal := 1 } : GateGuard).increment.reached = true := by
  decide

/-- The client disposes itself only behind the exchange, which is behind all transfers. -/
structure Course (s : State) : Prop where
  exitRequired : s.exitRequired = true → s.portal = .done
  main : s.main ≠ .init → s.main ≠ .waitExit → s.exitRequired = true
  absent : s.portal = .absent → s.main = .init
  disposer : s.disposer ≠ .idle → s.portal = .requireExit ∨ s.portal = .done
  results : s.portal.PastExchange → ∀ c < s.total, s.channelResult c = some true
  portal : ∀ r, s.portal = .storeStatus r → r = true
  exit : ∀ c r, s.chan c = .exit r → r = true
  left : ∀ c, (s.chan c).Left → s.channelResult c = some true
  valid : ¬ s.portal.BeforeChannels → 0 < s.total ∧ s.total < invalidSignalCount

lemma Course.mainStep (hs : Course s) (hpc : s.main ≠ .init) (h : MainStep s s') : Course s' := by
  obtain ⟨hexit, hmain, habsent, hdisposer, hresults, hportal, hexits, hleft, hvalid⟩ := hs
  cases h with
  | noTransfer hinit | notConnected hinit | connected hinit => exact absurd hinit hpc
  | dispose =>
    rw [startDispose_eq]
    dsimp only [State.setMain]
    constructor <;> first | assumption | grind -linarith
  | waitExit | waitDispose | read =>
    dsimp only [State.setMain]
    constructor <;> first | assumption | grind -linarith

lemma Course.portalStep (hs : Course s) (hi : Inv s) (hpc : s.portal.Runs)
    (h : PortalStep isFromServerToClient s s') : Course s' := by
  obtain ⟨hexit, hmain, habsent, hdisposer, hresults, hportal, hexits, hleft, hvalid⟩ := hs
  have hrefused := hi.teardown.refused
  cases h with
  | exit =>
    rw [startDispose_eq]
    dsimp only [State.setPortal]
    constructor <;> first | assumption | grind -linarith
  | useNull | transferNull | signalCount | invokeNullSocket =>
    exact ⟨hexit, hmain, habsent, hdisposer, hresults, hportal, hexits, hleft, hvalid⟩
  | _ =>
    dsimp only [State.setPortal, State.setChan]
    constructor <;> first | assumption | grind -linarith

/-- A channel that has not left the loop has come before the disposal. -/
lemma Course.idle {c : ℕ} (hs : Course s) (hi : Inv s) (hr : Results s)
    (hchan : s.chan c ≠ .absent) (hbefore : (s.chan c).BeforeResult) : s.disposer = .idle := by
  by_contra hd
  have hpast : s.portal.PastExchange := by
    rcases hs.disposer hd with h | h <;> rw [h] <;> trivial
  have hresult := hs.results hpast c (hi.threads.total c hchan)
  rw [hr.before c hbefore] at hresult
  cases hresult

/-- The loop of a channel has ended with success. -/
lemma Course.result {c : ℕ} {result : Bool} (hs : Course s) (hr : Results s)
    (h : (s.chan c).Leaving result) : result = true := by
  have hleft : (s.chan c).Left := by
    rcases h with h | h | h <;> rw [h] <;> trivial
  have hresult := hr.leaving c result h
  rw [hs.left c hleft] at hresult
  exact (Option.some.inj hresult).symm

lemma Course.channelStep {c : ℕ} (hs : Course s) (hi : Inv s) (hr : Results s)
    (hpc : (s.chan c).Runs) (h : ChannelStep isFromServerToClient s c s') : Course s' := by
  have hidle := hs.idle (c := c) hi hr
  have hresult : s.chan c = .storeStatus false → false = true :=
    fun h => hs.result hr (.inr (.inr h))
  obtain ⟨hexit, hmain, habsent, hdisposer, hresults, hportal, hexits, hleft, hvalid⟩ := hs
  cases h with
  | @exit success hpc' =>
    obtain rfl := hexits c success hpc'
    dsimp only [State.setChan]
    constructor <;> first | assumption | grind -linarith
  | transferNull =>
    exact ⟨hexit, hmain, habsent, hdisposer, hresults, hportal, hexits, hleft, hvalid⟩
  | storeFailed hpc' => exact absurd (hresult hpc') nofun
  | _ =>
    dsimp only [State.setChan]
    constructor <;> first | assumption | grind -linarith

lemma Course.disposeStep (hs : Course s) (h : DisposeStep s s') : Course s' := by
  obtain ⟨hexit, hmain, habsent, hdisposer, hresults, hportal, hexits, hleft, hvalid⟩ := hs
  cases h <;>
  · dsimp only [State.setDisposer]
    constructor <;> first | assumption | grind -linarith

lemma Course.step (hs : Course s) (hi : Inv s) (hr : Results s)
    (h : OrderlyStep isFromServerToClient s s') : Course s' := by
  cases h with
  | main hpc h => exact hs.mainStep hpc h
  | portal hpc h => exact hs.portalStep hi hpc h
  | channel hpc h => exact hs.channelStep hi hr hpc h
  | dispose h => exact hs.disposeStep h
  | initInfoFault =>
    exact ⟨hs.exitRequired, hs.main, hs.absent, hs.disposer, hs.results, hs.portal, hs.exit,
      hs.left, hs.valid⟩
  | init hpc =>
    obtain ⟨hidle, hportal⟩ := hi.teardown.init hpc
    have hchan := hi.teardown.absent hportal
    obtain ⟨hexit, hmain, habsent, hdisposer, hresults, hportal, hexits, hleft, hvalid⟩ := hs
    dsimp only [State.setMain]
    constructor <;> first | assumption | grind -linarith
  | _ =>
    obtain ⟨hexit, hmain, habsent, hdisposer, hresults, hportal, hexits, hleft, hvalid⟩ := hs
    dsimp only [State.setPortal, State.setChan]
    constructor <;> first | assumption | grind -linarith

/-- An orderly client finds its members, and its gate opens. -/
structure Members (isFromServerToClient : Bool) (s : State) : Prop where
  socket : s.main ≠ .init → s.disposer.stage ≤ 2 → s.socket = true
  transfer : s.main ≠ .init → s.disposer.stage ≤ 6 → s.transfer = true
  unknown : ¬ s.portal.Stored → s.transferResultStatus = .unknown
  stored : s.portal.Stored → s.transferResultStatus = .succeeded
  fresh : s.disposer = .idle → ¬ s.portal.PastReady → s.portal ≠ .setReady →
    s.gateClientPortalReady = { atLeastSignal := 1 }
  ready : s.portal.PastReady → s.gateClientPortalReady.isSet = true
  chanOpen : ∀ c, s.chanOpen c = false → 11 ≤ s.disposer.stage
  upload : isFromServerToClient = false → s.gateAllChannelsFinished = {} ∧
    s.portal ≠ .initInfo ∧ s.portal ≠ .waitFinished ∧ s.disposer ≠ .setFinished ∧
    ∀ c r, s.chan c ≠ .signalFinished r ∧ s.chan c ≠ .setFinished r
  creating : ∀ k, s.portal = .creating k → ∀ c < k, s.chan c ≠ .absent
  adding : ∀ k, s.portal = .adding k → ∀ c < k + 1, s.chan c ≠ .absent
  created : s.portal.PastCreating → ∀ c < s.total, s.chan c ≠ .absent

lemma Members.mainStep (hs : Members isFromServerToClient s) (hpc : s.main ≠ .init)
    (h : MainStep s s') : Members isFromServerToClient s' := by
  obtain ⟨hsocket, htransfer, hunknown, hstored, hfresh, hready, hopen, hupload, hcreating,
    hadding, hcreated⟩ := hs
  cases h with
  | noTransfer hinit | notConnected hinit | connected hinit => exact absurd hinit hpc
  | dispose =>
    rw [startDispose_eq]
    dsimp only [State.setMain]
    constructor <;> first | assumption | grind -linarith
  | waitExit | waitDispose | read =>
    dsimp only [State.setMain]
    constructor <;> first | assumption | grind -linarith

lemma Members.portalStep (hs : Members isFromServerToClient s) (hc : Course s) (hi : Inv s)
    (hpc : s.portal.Runs) (h : PortalStep isFromServerToClient s s') :
    Members isFromServerToClient s' := by
  have hrefused := hi.teardown.refused
  have hrundown := hi.teardown.rundown
  have hdisposer := hc.disposer
  have hportal := hc.portal
  obtain ⟨hsocket, htransfer, hunknown, hstored, hfresh, hready, hopen, hupload, hcreating,
    hadding, hcreated⟩ := hs
  cases h with
  | exit =>
    rw [startDispose_eq]
    dsimp only [State.setPortal]
    constructor <;> first | assumption | grind -linarith
  | useNull | transferNull | signalCount | invokeNullSocket =>
    exact ⟨hsocket, htransfer, hunknown, hstored, hfresh, hready, hopen, hupload, hcreating,
      hadding, hcreated⟩
  | refuse hpc' hrundown' =>
    have hd : s.disposer ≠ .idle := fun hd => by
      have hstage := hrundown.mp hrundown'
      rw [hd] at hstage
      exact absurd hstage (by decide)
    rcases hdisposer hd with h | h <;> exact absurd (hpc'.symm.trans h) nofun
  | @create k hpc' hk =>
    have hstarted : ∀ c < k + 1, Function.update s.chan k .connecting c ≠ .absent := by
      intro c hc
      rcases Nat.lt_succ_iff_lt_or_eq.mp hc with hlt | rfl
      · rw [Function.update_of_ne hlt.ne]
        exact hcreating k hpc' c hlt
      · rw [Function.update_self]
        nofun
    dsimp only [State.setPortal, State.setChan]
    constructor <;> first | assumption | grind -linarith
  | @add k hpc' =>
    have hstarted : ∀ i, k + 1 = i → ∀ c < i, s.chan c ≠ .absent := by
      rintro _ rfl
      exact hadding k hpc'
    dsimp only [State.setPortal]
    constructor <;> first | assumption | grind -linarith
  | _ =>
    dsimp only [State.setPortal, State.setChan]
    constructor <;> first | assumption | grind -linarith

lemma Members.channelStep {c : ℕ} (hs : Members isFromServerToClient s) (hc : Course s)
    (hr : Results s) (hpc : (s.chan c).Runs) (h : ChannelStep isFromServerToClient s c s') :
    Members isFromServerToClient s' := by
  obtain ⟨hsocket, htransfer, hunknown, hstored, hfresh, hready, hopen, hupload, hcreating,
    hadding, hcreated⟩ := hs
  cases h with
  | @exit success hpc' =>
    obtain rfl := hc.exit c success hpc'
    dsimp only [State.setChan]
    constructor <;> first | assumption | grind -linarith
  | transferNull =>
    exact ⟨hsocket, htransfer, hunknown, hstored, hfresh, hready, hopen, hupload, hcreating,
      hadding, hcreated⟩
  | storeFailed hpc' => exact absurd (hc.result hr (.inr (.inr hpc'))) nofun
  | _ =>
    dsimp only [State.setChan]
    constructor <;> first | assumption | grind -linarith

lemma Members.step (hs : Members isFromServerToClient s) (hc : Course s) (hi : Inv s)
    (hr : Results s) (h : OrderlyStep isFromServerToClient s s') :
    Members isFromServerToClient s' := by
  cases h with
  | main hpc h => exact hs.mainStep hpc h
  | portal hpc h => exact hs.portalStep hc hi hpc h
  | channel hpc h => exact hs.channelStep hc hr hpc h
  | initInfoFault =>
    exact ⟨hs.socket, hs.transfer, hs.unknown, hs.stored, hs.fresh, hs.ready, hs.chanOpen,
      hs.upload, hs.creating, hs.adding, hs.created⟩
  | init hpc =>
    obtain ⟨hidle, hportal⟩ := hi.teardown.init hpc
    obtain ⟨hsocket, htransfer, hunknown, hstored, hfresh, hready, hopen, hupload, hcreating,
      hadding, hcreated⟩ := hs
    dsimp only [State.setMain]
    constructor <;> first | assumption | grind -linarith
  | dispose h =>
    have hdisposer := hc.disposer
    obtain ⟨hsocket, htransfer, hunknown, hstored, hfresh, hready, hopen, hupload, hcreating,
      hadding, hcreated⟩ := hs
    cases h <;>
    · dsimp only [State.setDisposer]
      constructor <;> first | assumption | grind -linarith
  | _ =>
    obtain ⟨hsocket, htransfer, hunknown, hstored, hfresh, hready, hopen, hupload, hcreating,
      hadding, hcreated⟩ := hs
    dsimp only [State.setPortal, State.setChan]
    constructor <;> first | assumption | grind -linarith

/-- The thread of a channel or of the portal finds what it relies on. -/
lemma OrderlyStep.fault (h : OrderlyStep isFromServerToClient s s') (hc : Course s)
    (hm : Members isFromServerToClient s) (hi : Inv s) (hr : Results s) (hfault : s.fault = none) :
    s'.fault = none := by
  have hstarted : s.portal ≠ .absent → s.main ≠ .init :=
    fun hne hinit => hne (hi.teardown.init hinit).2
  have hportal : s.portal ≠ .absent → s.portal ≠ .requireExit → s.portal ≠ .done →
      s.socket = true ∧ s.transfer = true := by
    intro hne hexit hdone
    have hidle : s.disposer = .idle := by
      by_contra hd
      rcases hc.disposer hd with h | h
      · exact hexit h
      · exact hdone h
    exact ⟨hm.socket (hstarted hne) (by rw [hidle]; decide),
      hm.transfer (hstarted hne) (by rw [hidle]; decide)⟩
  have hchan : ∀ c, s.chan c = .assertTransfer ∨ s.chan c = .invoke → s.transfer = true := by
    intro c hpc
    have hne : s.chan c ≠ .absent ∧ (s.chan c).BeforeResult := by
      rcases hpc with hpc | hpc <;> rw [hpc] <;> exact ⟨nofun, trivial⟩
    have habsent : s.portal ≠ .absent := fun h => hne.1 (hi.teardown.absent h c)
    exact hm.transfer (hstarted habsent) (by rw [hc.idle hi hr hne.1 hne.2]; decide)
  cases h with
  | main _ h =>
    cases h with
    | dispose =>
      rw [startDispose_eq]
      exact hfault
    | _ => exact hfault
  | portal hpc h =>
    cases h with
    | useNull hpc' hnull =>
      rw [(hportal (by rw [hpc']; nofun) (by rw [hpc']; nofun) (by rw [hpc']; nofun)).1] at hnull
      cases hnull
    | transferNull hpc' hnull =>
      have hbusy : s.portal ≠ .absent ∧ s.portal ≠ .requireExit ∧ s.portal ≠ .done := by
        rcases hpc' with h | h | h | h | h <;> rw [h] <;> exact ⟨nofun, nofun, nofun⟩
      rw [(hportal hbusy.1 hbusy.2.1 hbusy.2.2).2] at hnull
      cases hnull
    | signalCount hpc' =>
      rw [hpc'] at hpc
      exact hpc.elim
    | invokeNullSocket hpc' hnull =>
      rw [(hportal (by rw [hpc']; nofun) (by rw [hpc']; nofun) (by rw [hpc']; nofun)).1] at hnull
      cases hnull
    | exit =>
      rw [startDispose_eq]
      exact hfault
    | _ => exact hfault
  | channel _ h =>
    cases h with
    | transferNull hpc' hnull =>
      rw [hchan _ hpc'] at hnull
      cases hnull
    | @exit success =>
      rw [startDispose_eq]
      cases success <;> exact hfault
    | _ => exact hfault
  | dispose h => cases h <;> exact hfault
  | initInfoFault hpc hf =>
    rcases hf with hnull | hcount
    · rw [(hportal (by rw [hpc]; nofun) (by rw [hpc]; nofun) (by rw [hpc]; nofun)).2] at hnull
      cases hnull
    · exact absurd (hc.valid (by rw [hpc]; exact id)) hcount
  | _ => exact hfault

/-! ### Reachable orderly clients -/

/-- What holds of a client in order. -/
structure InOrder (isFromServerToClient : Bool) (s : State) : Prop where
  inv : Inv s
  results : Results s
  course : Course s
  members : Members isFromServerToClient s
  fault : s.fault = none

lemma InOrder.of_reach (h : (machine isFromServerToClient).ReachIf Orderly s) :
    InOrder isFromServerToClient s := by
  refine h.invariant (fun s hs => ?_) fun s a s' hreach hs ha hstep => ?_
  · obtain rfl := hs
    refine ⟨.start, ?_, ?_, ?_, rfl⟩
    · exact Results.of_reach ((Machine.ReachIf.init rfl : (machine isFromServerToClient).Reach {}))
    · constructor <;> simp [PortalPc.PastExchange, PortalPc.BeforeChannels, ChannelPc.Left]
    · constructor <;> simp [PortalPc.Stored, PortalPc.PastReady, PortalPc.PastCreating,
        PortalPc.BeforeChannels]
  · have hinv := Inv.of_reach (hreach.step ha hstep)
    have hresults := Results.of_reach (hreach.step ha hstep).reach
    obtain ⟨-, h⟩ := OrderlyStep.of_step ha hstep
    exact ⟨hinv, hresults, hs.course.step hs.inv hs.results h,
      hs.members.step hs.course hs.inv hs.results h,
      h.fault hs.course hs.members hs.inv hs.results hs.fault⟩

end ClientPortal

end Xcp
