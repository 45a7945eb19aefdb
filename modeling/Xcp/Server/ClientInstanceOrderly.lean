import Xcp.Server.ClientInstanceVanish

/-!
# A client instance in order

A run of the instance in which nothing fails: its operations are answered with success, nobody else
disposes it, the client opens its `n` channels and closes none, and what the portals exchange at the
end is exchanged only after all channels have transferred. In such a run the instance is disposed
only at the end, so that its own disposal fails none of its threads.
-/

namespace Xcp

namespace ClientInstance

/-- The thread of a channel has left the loop of `invoke_channel`, and signalled. -/
def ChannelPc.Left : ChannelPc → Prop
  | .exit _ | .done => True
  | _ => False

/-- Every answer is a success, and the last exchange waits for the channels. -/
def Orderly (n : ℕ) (kind : TransferKind) (s : State) : Action → Prop
  | .portalOp ok => ok = true ∧ (s.portal = .exchange → ∀ c < n, (s.chan c).Left)
  | .create r => r = .created kind
  | .initialise r => r = .ok
  | .transferred _ result => result = true
  | .openChannel c => c < n
  | .startDispose | .loseChannel _ | .close => False
  | .portal | .channel _ | .dispose | .sendRequest => True

/-! ### What an orderly instance can do -/

/-- The portal thread needs no answer. -/
def PortalPc.Runs : PortalPc → Prop
  | .inside _ | .create | .created | .exchange => False
  | _ => True

/-- The thread of a channel needs no answer. -/
def ChannelPc.Runs : ChannelPc → Prop
  | .transferring _ => False
  | _ => True

attribute [grind =] ChannelPc.Left PortalPc.Runs ChannelPc.Runs

/-- The steps of an orderly instance. -/
inductive OrderlyStep (n : ℕ) (kind : TransferKind) (s : State) : State → Prop where
  | portal {s'} (hpc : s.portal.Runs) (h : PortalStep n s s') : OrderlyStep n kind s s'
  | opDone {op} (hpc : s.portal = .inside op) (hopen : s.socketOpen = true)
      (hrequest : op = .recvRequest → s.requestSent = true) :
      OrderlyStep n kind s (s.setPortal op.next)
  | exchange (hpc : s.portal = .exchange) (hopen : s.socketOpen = true)
      (hall : ∀ c < n, (s.chan c).Left) : OrderlyStep n kind s (s.setPortal .exit)
  | create (hpc : s.portal = .create) :
      OrderlyStep n kind s ({ s with transfer := some kind }.setPortal .created)
  | createdNull (hpc : s.portal = .created) (htransfer : s.transfer = none) :
      OrderlyStep n kind s (s.crash .nullTransfer)
  | createdSource (hpc : s.portal = .created) (htransfer : s.transfer = some .source) :
      OrderlyStep n kind s (s.setPortal .waitAll)
  | createdDestination (hpc : s.portal = .created) (htransfer : s.transfer = some .destination) :
      OrderlyStep n kind s ({ s with
        gateAllChannelsFinished := { atLeastSignal := n } }.setPortal .waitAll)
  | channel {c s'} (hpc : (s.chan c).Runs) (h : ChannelStep s c s') : OrderlyStep n kind s s'
  | transferred {c k} (hpc : s.chan c = .transferring k) (hopen : s.chanOpen c = true) :
      OrderlyStep n kind s
        (s.setChan c (if k = .destination then .signalFinished true else .exit true))
  | dispose {s'} (h : DisposeStep s s') : OrderlyStep n kind s s'
  | openChannel {c} (hc : c < n) (hpc : s.chan c = .absent) :
      OrderlyStep n kind s ({ s with opened := insert c s.opened }.setChan c .connecting)
  | sendRequest : OrderlyStep n kind s { s with requestSent := true }

variable {n : ℕ} {kind : TransferKind} {s s' : State} {a : Action}

lemma portal_runs (h : s.portalStep.isSome) : s.portal.Runs := by
  unfold State.portalStep at h
  cases hpc : s.portal with
  | inside | create | created | exchange => simp [hpc] at h
  | _ => trivial

lemma channel_runs {c : ℕ} (h : (s.channelStep c).isSome) : (s.chan c).Runs := by
  unfold State.channelStep at h
  cases hpc : s.chan c with
  | transferring => simp [hpc] at h
  | _ => trivial

lemma OrderlyStep.of_portalOp (hwait : s.portal = .exchange → ∀ c < n, (s.chan c).Left)
    (h : s.portalOp true = some s') : OrderlyStep n kind s s' := by
  unfold State.portalOp at h
  split at h
  · next op hpc =>
    rw [if_pos rfl] at h
    split_ifs at h with hopen
    cases h
    exact .opDone hpc hopen.1 hopen.2
  · next hpc =>
    split_ifs at h with hopen
    cases h
    exact .exchange hpc (by simpa using hopen) (hwait hpc)
  · cases h

lemma OrderlyStep.of_initialise (h : s.initialise n .ok = some s') :
    OrderlyStep n kind s s' := by
  unfold State.initialise at h
  split at h
  · next hpc =>
    split at h
    · next htransfer => cases h; exact .createdNull hpc htransfer
    · next htransfer =>
      rw [if_pos rfl] at h
      cases h
      exact .createdSource hpc htransfer
    · next htransfer => cases h; exact .createdDestination hpc htransfer
  · cases h

lemma OrderlyStep.of_transferred {c : ℕ} (h : s.transferred c true = some s') :
    OrderlyStep n kind s s' := by
  unfold State.transferred at h
  split at h
  · next k hpc =>
    cases hopen : s.chanOpen c with
    | false => simp [hopen] at h
    | true =>
      rw [if_neg (by simp [hopen])] at h
      cases h
      exact .transferred hpc hopen
  · cases h

/-- An orderly step is listed, and the process has not ended. -/
lemma OrderlyStep.of_step (ha : Orderly n kind s a) (h : s.step n a = some s') :
    s.fault = none ∧ OrderlyStep n kind s s' := by
  unfold State.step at h
  by_cases hfault : s.fault = none
  swap
  · rw [if_pos hfault] at h
    cases h
  rw [if_neg (not_not.mpr hfault)] at h
  refine ⟨hfault, ?_⟩
  cases a with
  | portal =>
    replace h : s.portalStep = some s' := h
    exact .portal (portal_runs (Option.isSome_of_eq_some h)) (.of_portalStep h)
  | portalOp ok =>
    obtain ⟨rfl, hwait⟩ := ha
    exact .of_portalOp hwait h
  | create r =>
    obtain rfl : r = .created kind := ha
    replace h : s.create (.created kind) = some s' := h
    unfold State.create at h
    split at h <;> cases h
    all_goals try cases ‹Creation.created kind = _›
    exact .create ‹_›
  | initialise r =>
    obtain rfl : r = .ok := ha
    exact .of_initialise h
  | channel c =>
    replace h : s.channelStep c = some s' := h
    exact .channel (channel_runs (Option.isSome_of_eq_some h)) (.of_channelStep h)
  | transferred c result =>
    obtain rfl : result = true := ha
    exact .of_transferred h
  | startDispose | loseChannel | close => exact ha.elim
  | dispose => exact .dispose (.of_disposeStep h)
  | openChannel c =>
    simp only [State.clientStep] at h
    split_ifs at h with hopen
    cases h
    exact .openChannel ha hopen.2
  | sendRequest =>
    simp only [State.clientStep] at h
    split_ifs at h
    cases h
    exact .sendRequest

/-! ### What holds of an orderly instance -/

/-- The portal thread has not set up a transfer. -/
def PortalPc.BeforeInitialised : PortalPc → Prop
  | .use .recvVersion | .inside .recvVersion | .use .sendVersion | .inside .sendVersion
  | .use .sendInformation | .inside .sendInformation | .use .recvRequest | .inside .recvRequest
  | .create | .created => True
  | _ => False

attribute [grind =] PortalPc.BeforeInitialised

/-- The instance disposes itself only behind the exchange, which is behind all transfers. -/
structure Course (n : ℕ) (kind : TransferKind) (s : State) : Prop where
  disposer : s.disposer ≠ .idle → s.portal = .done
  left : s.portal = .exit ∨ s.portal = .done → ∀ c < n, (s.chan c).Left
  result : ∀ c r, s.chan c = .signalFinished r ∨ s.chan c = .setFinished r ∨ s.chan c = .exit r →
    r = true
  range : ∀ c, s.chan c ≠ .absent → c < n
  transfer : ∀ k, s.transfer = some k → k = kind
  transferring : ∀ c k, s.chan c = .transferring k → k = kind
  answers : s.portal ≠ .use .sendErrorResponse ∧ s.portal ≠ .inside .sendErrorResponse
  accepted : ∀ c, s.chan c ≠ .rejected ∧ s.chan c ≠ .lost
  fresh : kind = .source ∨ s.portal.BeforeInitialised → s.gateAllChannelsFinished = {}
  upload : ∀ c r, s.chan c = .signalFinished r ∨ s.chan c = .setFinished r → kind = .destination
  forced : s.disposer = .setFinished → kind = .destination
  chanOpen : ∀ c, s.chanOpen c = false → 14 ≤ s.disposer.stage
  peer : s.peerClosed = false

/-- The threads of the channels are at work only until the instance is disposed. -/
lemma Course.idle {c : ℕ} (hs : Course n kind s) (hchan : s.chan c ≠ .absent)
    (hleft : ¬ (s.chan c).Left) : s.disposer = .idle ∧ s.portal ≠ .exit ∧ s.portal ≠ .done := by
  have hportal : ¬ (s.portal = .exit ∨ s.portal = .done) :=
    fun h => hleft (hs.left h c (hs.range c hchan))
  rw [not_or] at hportal
  exact ⟨by_contra fun hd => hportal.2 (hs.disposer hd), hportal⟩

/-- The channels signal that they have finished only to a destination that is set up. -/
lemma Course.late {c : ℕ} {r : Bool} (hs : Course n kind s)
    (hw : s.disposer = .idle → Waits s)
    (hpc : s.chan c = .signalFinished r ∨ s.chan c = .setFinished r) :
    ¬ (kind = .source ∨ s.portal.BeforeInitialised) := by
  have hkind := hs.upload c r hpc
  have hidle := hs.idle (c := c) (by rcases hpc with h | h <;> rw [h] <;> nofun)
    (by rcases hpc with h | h <;> rw [h] <;> exact id)
  have hwaits := hw hidle.1
  have hready := hwaits.ready (hwaits.chan c (by rcases hpc with h | h <;> rw [h] <;> trivial))
  grind -linarith

lemma Course.portalStep (hs : Course n kind s) (hpc : s.portal.Runs)
    (h : PortalStep n s s') : Course n kind s' := by
  obtain ⟨hdisposer, hleft, hresult, hrange, htransfer, htransferring, hanswers, haccepted, hfresh,
    hupload, hforced, hopen, hpeer⟩ := hs
  have hdone : s.portal ≠ .done → s.disposer = .idle := fun hne => by
    by_contra hd
    exact hne (hdisposer hd)
  cases h with
  | exit =>
    rw [startDispose_eq]
    dsimp only [State.setPortal]
    constructor <;> first | assumption | grind -linarith
  | useNull | createdNull | invokeNull | invokeNullSocket =>
    exact ⟨hdisposer, hleft, hresult, hrange, htransfer, htransferring, hanswers, haccepted, hfresh,
      hupload, hforced, hopen, hpeer⟩
  | @use op =>
    cases op <;>
    · dsimp only [State.setPortal]
      constructor <;> first | assumption | grind -linarith
  | _ =>
    dsimp only [State.setPortal]
    constructor <;> first | assumption | grind -linarith

lemma Course.channelStep {c : ℕ} (hs : Course n kind s) (hi : Inv s)
    (hw : s.disposer = .idle → Waits s) (hpc : (s.chan c).Runs) (h : ChannelStep s c s') :
    Course n kind s' := by
  have hidle := hs.idle (c := c)
  have hlate := fun r => hs.late (c := c) (r := r) hw
  have hrundown := hi.locks.rundown
  obtain ⟨hdisposer, hleft, hresult, hrange, htransfer, htransferring, hanswers, haccepted, hfresh,
    hupload, hforced, hopen, hpeer⟩ := hs
  cases h with
  | @exit result hpc' =>
    obtain rfl := hresult c result (.inr (.inr hpc'))
    dsimp only [State.setChan]
    constructor <;> first | assumption | grind -linarith
  | assertNull | invokeNull =>
    exact ⟨hdisposer, hleft, hresult, hrange, htransfer, htransferring, hanswers, haccepted, hfresh,
      hupload, hforced, hopen, hpeer⟩
  | rejected hpc' hrundown' =>
    have hd := (hidle (by rw [hpc']; nofun) (by rw [hpc']; exact id)).1
    rw [hd] at hrundown
    exact absurd (hrundown.mp hrundown') (by decide)
  | _ =>
    dsimp only [State.setChan]
    constructor <;> first | assumption | grind -linarith

lemma Course.disposeStep (hs : Course n kind s) (h : DisposeStep s s') : Course n kind s' := by
  obtain ⟨hdisposer, hleft, hresult, hrange, htransfer, htransferring, hanswers, haccepted, hfresh,
    hupload, hforced, hopen, hpeer⟩ := hs
  cases h <;>
  · dsimp only [State.setDisposer]
    constructor <;> first | assumption | grind -linarith

lemma Course.step (hs : Course n kind s) (hi : Inv s) (hw : s.disposer = .idle → Waits s)
    (h : OrderlyStep n kind s s') : Course n kind s' := by
  cases h with
  | portal hpc h => exact hs.portalStep hpc h
  | channel hpc h => exact hs.channelStep hi hw hpc h
  | dispose h => exact hs.disposeStep h
  | createdNull | sendRequest =>
    exact ⟨hs.disposer, hs.left, hs.result, hs.range, hs.transfer, hs.transferring, hs.answers,
      hs.accepted, hs.fresh, hs.upload, hs.forced, hs.chanOpen, hs.peer⟩
  | @opDone op =>
    obtain ⟨hdisposer, hleft, hresult, hrange, htransfer, htransferring, hanswers, haccepted, hfresh,
      hupload, hforced, hopen, hpeer⟩ := hs
    cases op <;>
    · dsimp only [State.setPortal]
      constructor <;> first | assumption | grind -linarith
  | transferred hpc =>
    have hidle := hs.idle (by rw [hpc]; nofun) (by rw [hpc]; exact id)
    obtain ⟨hdisposer, hleft, hresult, hrange, htransfer, htransferring, hanswers, haccepted, hfresh,
      hupload, hforced, hopen, hpeer⟩ := hs
    dsimp only [State.setChan]
    constructor <;> first | assumption | grind -linarith
  | _ =>
    obtain ⟨hdisposer, hleft, hresult, hrange, htransfer, htransferring, hanswers, haccepted, hfresh,
      hupload, hforced, hopen, hpeer⟩ := hs
    dsimp only [State.setPortal, State.setChan]
    constructor <;> first | assumption | grind -linarith

/-- The portal thread has set up its transfer, which the instance keeps until it resets it. -/
structure SetUp (kind : TransferKind) (s : State) : Prop where
  transfer : ¬ s.portal.BeforeInitialised → s.disposer.stage ≤ 10 → s.transfer = some kind
  gate : ¬ s.portal.BeforeInitialised → kind = .destination →
    s.gateAllChannelsFinished.initialized = true

lemma SetUp.portalStep (hs : SetUp kind s) (hc : Course n kind s) (hpc : s.portal.Runs)
    (h : PortalStep n s s') : SetUp kind s' := by
  obtain ⟨htransfer, hgate⟩ := hs
  have hanswers := hc.answers
  cases h with
  | exit =>
    rw [startDispose_eq]
    dsimp only [State.setPortal]
    constructor <;> first | assumption | grind -linarith
  | useNull | createdNull | invokeNull | invokeNullSocket => exact ⟨htransfer, hgate⟩
  | @use op =>
    cases op <;>
    · dsimp only [State.setPortal]
      constructor <;> first | assumption | grind -linarith
  | _ =>
    dsimp only [State.setPortal]
    constructor <;> first | assumption | grind -linarith

lemma SetUp.channelStep {c : ℕ} (hs : SetUp kind s) (h : ChannelStep s c s') : SetUp kind s' := by
  obtain ⟨htransfer, hgate⟩ := hs
  cases h with
  | signalFinished | setFinished =>
    dsimp only [State.setChan]
    constructor <;> assumption
  | @exit result =>
    cases result with
    | true => exact ⟨htransfer, hgate⟩
    | false =>
      rw [startDispose_eq]
      dsimp only [State.setChan]
      constructor <;> first | assumption | grind -linarith
  | _ => exact ⟨htransfer, hgate⟩

lemma SetUp.step (hn : n ≠ invalidSignalCount) (hs : SetUp kind s) (hc : Course n kind s)
    (h : OrderlyStep n kind s s') : SetUp kind s' := by
  cases h with
  | portal hpc h => exact hs.portalStep hc hpc h
  | channel hpc h => exact hs.channelStep h
  | dispose h =>
    obtain ⟨htransfer, hgate⟩ := hs
    cases h <;>
    · dsimp only [State.setDisposer]
      constructor <;> first | assumption | grind -linarith
  | createdNull | sendRequest | openChannel | transferred => exact ⟨hs.transfer, hs.gate⟩
  | @opDone op =>
    obtain ⟨htransfer, hgate⟩ := hs
    have hanswers := hc.answers
    cases op <;>
    · dsimp only [State.setPortal]
      constructor <;> first | assumption | grind -linarith
  | createdSource hpc hsource | createdDestination hpc hsource =>
    have hkind := hc.transfer _ hsource
    obtain ⟨htransfer, hgate⟩ := hs
    dsimp only [State.setPortal]
    constructor <;> first | assumption | grind -linarith
  | _ =>
    obtain ⟨htransfer, hgate⟩ := hs
    dsimp only [State.setPortal]
    constructor <;> first | assumption | grind -linarith

/-- The threads find what they rely on. -/
lemma OrderlyStep.fault (h : OrderlyStep n kind s s') (hs : Course n kind s) (hi : Inv s)
    (hw : s.disposer = .idle → Waits s) (hfault : s.fault = none) : s'.fault = none := by
  have hidle : s.portal ≠ .done → s.disposer = .idle := fun hne => by
    by_contra hd
    exact hne (hs.disposer hd)
  have hsocket : s.portal ≠ .done → s.socket = true := fun hne =>
    hi.teardown.socket.mp (by rw [hidle hne]; decide)
  have htransfer : s.portal = .created ∨ s.portal.Initialised → s.transfer.isSome := fun hpc => by
    refine hi.transferring.isSome ?_ hpc
    rw [hidle (by grind -linarith)]
    decide
  have hchan : ∀ c, s.chan c = .assertTransfer ∨ s.chan c = .invoke → s.transfer.isSome := by
    intro c hpc
    obtain ⟨hd, hexit, hdone⟩ := hs.idle (c := c) (by rcases hpc with h | h <;> rw [h] <;> nofun)
      (by rcases hpc with h | h <;> rw [h] <;> exact id)
    have hready := (hw hd).ready ((hw hd).chan c (by rcases hpc with h | h <;> rw [h] <;> trivial))
    exact htransfer (.inr (by grind -linarith))
  cases h with
  | portal hpc h =>
    cases h with
    | useNull hpc' hnull =>
      rw [hsocket (by rw [hpc']; nofun)] at hnull
      cases hnull
    | createdNull hpc' hnull =>
      rw [hpc'] at hpc
      exact hpc.elim
    | invokeNull hpc' hnull =>
      have hsome := htransfer (.inr (by rw [hpc']; exact .inr (.inr trivial)))
      rw [hnull] at hsome
      cases hsome
    | invokeNullSocket hpc' _ hnull =>
      rw [hsocket (by rw [hpc']; nofun)] at hnull
      cases hnull
    | exit =>
      rw [startDispose_eq]
      exact hfault
    | _ => exact hfault
  | createdNull hpc hnull =>
    have hsome := htransfer (.inl hpc)
    rw [hnull] at hsome
    cases hsome
  | @channel c _ _ h =>
    cases h with
    | assertNull hpc hnull | invokeNull hpc hnull =>
      have hsome := hchan c (by simp [hpc])
      rw [hnull] at hsome
      cases hsome
    | @exit result =>
      rw [startDispose_eq]
      cases result <;> exact hfault
    | _ => exact hfault
  | dispose h => cases h <;> exact hfault
  | _ => exact hfault

/-! ### Reachable orderly instances -/

/-- What holds of an instance in order. -/
structure InOrder (n : ℕ) (kind : TransferKind) (s : State) : Prop where
  pos : 0 < n
  lt : n < invalidSignalCount
  inv : Inv s
  idle : s.disposer = .idle → Idle n s
  course : Course n kind s
  setUp : SetUp kind s
  fault : s.fault = none

lemma InOrder.of_reach (h : (machine n).ReachIf (Orderly n kind) s) : InOrder n kind s := by
  refine h.invariant (fun s hs => ?_) fun s a s' hreach hs ha hstep => ?_
  · obtain ⟨hpos, hlt, rfl⟩ := hs
    refine ⟨hpos, hlt, .start, fun _ => .start hpos, ?_, ?_, rfl⟩
    · constructor <;> simp [ClientInstance.start]
    · constructor <;> simp [ClientInstance.start, PortalPc.BeforeInitialised]
  · have hreach' := hreach.step ha hstep
    have hidle := (Idle.of_reach hreach').2.2
    obtain ⟨-, h⟩ := OrderlyStep.of_step ha hstep
    have hwaits := fun hd => (hs.idle hd).waits
    exact ⟨hs.pos, hs.lt, .of_reach hreach', hidle, hs.course.step hs.inv hwaits h,
      hs.setUp.step hs.lt.ne hs.course h, h.fault hs.course hs.inv hwaits hs.fault⟩

end ClientInstance

end Xcp
