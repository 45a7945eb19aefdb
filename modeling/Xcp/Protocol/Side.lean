import Xcp.Client.PortalOrderly
import Xcp.Server.ClientInstanceOrderly

/-!
# A side of a transfer

The client and its instance on the server each run one of the two transfers. A transfer sees the
same of both: how far the threads of the channels and of the portal have come with
`invoke_channel` and `invoke_portal`, the gate of a destination, which sockets are open, and how far
the transfer has been disposed. What an orderly process does to a side is a move; the process calls
into its transfer in most of them.
-/

namespace Xcp

open ClientInstance (TransferKind)

namespace Protocol

/-- How far the thread of a channel has come with `invoke_channel`. -/
inductive Phase where
  | before
  | inside
  | signalling
  | setting
  | behind
  deriving DecidableEq

/-- How far the portal thread has come with `invoke_portal`. -/
inductive PortalPhase where
  | before
  | waiting
  | exchanging
  | behind
  deriving DecidableEq

/-- How far the transfer has been disposed: its files are closed, then the gate of a destination is
forced and set. -/
inductive Disposal where
  | before
  | closing
  | setting
  | behind
  deriving DecidableEq

/-- What a transfer sees of its process. -/
structure Side where
  phase : ℕ → Phase
  portal : PortalPhase
  gate : GateGuard
  disposal : Disposal
  chanOpen : ℕ → Bool
  portalOpen : Bool

/-- What a step of a process does to its transfer. -/
inductive Call where
  | none
  | wake
  | exchange (ok : Bool)
  | leave (c : ℕ) (result : Bool)
  | signal (c : ℕ)
  | set (c : ℕ)
  | closePortal
  | release
  | force
  | setForced
  deriving DecidableEq

def Side.setPhase (v : Side) (c : ℕ) (p : Phase) : Side :=
  { v with phase := Function.update v.phase c p }

/-- The moves of a side with `N` channels. -/
inductive Move (N : ℕ) (v : Side) : TransferKind → Call → Side → Prop where
  | stay {kind} : Move N v kind .none v
  | enter {kind c} (hc : c < N) (hpc : v.phase c = .before)
      (hgate : kind = .destination → v.gate.initialized = true) :
      Move N v kind .none (v.setPhase c .inside)
  | initialise (hpos : 0 < N) (hgate : v.gate = {}) :
      Move N v .destination .none { v with gate := { atLeastSignal := N } }
  | wait (hpc : v.portal = .before) : Move N v .destination .none { v with portal := .waiting }
  | invoke (hpc : v.portal = .before) : Move N v .source .none { v with portal := .exchanging }
  | wake (hpc : v.portal = .waiting) : Move N v .destination .wake { v with portal := .exchanging }
  | exchange {kind} (hpc : v.portal = .exchanging) :
      Move N v kind (.exchange true) { v with portal := .behind }
  | leaveSource {c} (hpc : v.phase c = .inside) :
      Move N v .source (.leave c true) (v.setPhase c .behind)
  | leaveDestination {c} (hpc : v.phase c = .inside) :
      Move N v .destination (.leave c true) (v.setPhase c .signalling)
  | signal {c} (hpc : v.phase c = .signalling) :
      Move N v .destination (.signal c) ({ v with gate := v.gate.increment }.setPhase c
        (if v.gate.increment.reached then .setting else .behind))
  | set {c} (hpc : v.phase c = .setting) :
      Move N v .destination (.set c) ({ v with gate := v.gate.set }.setPhase c .behind)
  | closePortal {kind} (hpc : v.portal = .behind) :
      Move N v kind .closePortal { v with portalOpen := false }
  | closeChannel {kind c} (hpc : v.portal = .behind) :
      Move N v kind .none { v with chanOpen := Function.update v.chanOpen c false }
  | close {kind} (hpc : v.portal = .behind) (hopen : v.portalOpen = false)
      (hd : v.disposal = .before) : Move N v kind .none { v with disposal := .closing }
  | release (hd : v.disposal = .closing) :
      Move N v .source .release { v with disposal := .behind }
  | force (hd : v.disposal = .closing) (hgate : v.gate.initialized = true) :
      Move N v .destination .force { v with gate := v.gate.force, disposal := .setting }
  | setForced (hd : v.disposal = .setting) :
      Move N v .destination .setForced { v with gate := v.gate.set, disposal := .behind }

lemma Side.setPhase_of_eq {v : Side} {c : ℕ} {p : Phase} (h : v.phase c = p) :
    v.setPhase c p = v := by
  subst h
  simp [Side.setPhase]

lemma Move.of_eq {N : ℕ} {v v' : Side} {kind : TransferKind} (h : v' = v) :
    Move N v kind .none v' := h ▸ .stay

end Protocol

open Protocol

/-! ### The client -/

namespace ClientPortal

/-- The transfer of a client. -/
def kindOf (isFromServerToClient : Bool) : TransferKind :=
  if isFromServerToClient then .destination else .source

def ChannelPc.phase : ChannelPc → Phase
  | .absent | .connecting | .waitReady | .check | .assertTransfer | .invoke => .before
  | .transferring => .inside
  | .signalFinished _ => .signalling
  | .setFinished _ => .setting
  | .storeStatus _ | .exit _ | .done => .behind

def PortalPc.phase : PortalPc → PortalPhase
  | .waitFinished => .waiting
  | .exchange => .exchanging
  | .storeStatus _ | .exit | .requireExit | .done => .behind
  | _ => .before

def DisposerPc.disposal : DisposerPc → Disposal
  | .idle | .disposeSocket | .resetSocket | .ifTransfer => .before
  | .disposeTransfer => .closing
  | .setFinished => .setting
  | _ => .behind

namespace State

variable (s : State)

/-- What the transfer of a client sees. -/
def side : Side where
  phase c := (s.chan c).phase
  portal := s.portal.phase
  gate := s.gateAllChannelsFinished
  disposal := s.disposer.disposal
  chanOpen := s.chanOpen
  portalOpen := s.socketOpen

/-- What an action does to the transfer of a client. -/
def call : Action → Call
  | .portal => if s.portal = .waitFinished then .wake else .none
  | .portalOp ok => if s.portal = .exchange then .exchange ok else .none
  | .channel c =>
    match s.chan c with
    | .signalFinished _ => .signal c
    | .setFinished _    => .set c
    | _ => .none
  | .transferred c result => .leave c result
  | .dispose =>
    match s.disposer with
    | .disposeSocket   => .closePortal
    | .disposeTransfer => if s.gateAllChannelsFinished.initialized then .force else .release
    | .setFinished     => .setForced
    | _ => .none
  | _ => .none

lemma side_setChan (c : ℕ) (pc : ChannelPc) : (s.setChan c pc).side = s.side.setPhase c pc.phase := by
  unfold side Side.setPhase setChan
  congr 1
  funext i
  exact Function.apply_update (fun _ => ChannelPc.phase) s.chan c pc i

/-- A step that the transfer does not see. -/
lemma side_setChan_of_eq {c : ℕ} {pc : ChannelPc} (h : (s.chan c).phase = pc.phase) :
    (s.setChan c pc).side = s.side := by
  rw [side_setChan]
  exact Side.setPhase_of_eq h

end State

variable {isFromServerToClient : Bool} {s s' : State} {a : Action}

/-- The gate of a download is set up before its channels transfer. -/
structure Ready (isFromServerToClient : Bool) (s : State) : Prop where
  order : InOrder isFromServerToClient s
  gate : isFromServerToClient = true → GateReady s

lemma Ready.of_reach (h : (machine isFromServerToClient).ReachIf Orderly s) :
    Ready isFromServerToClient s where
  order := .of_reach h
  gate := by
    rintro rfl
    exact (GateCount.of_reach h.reach).1

lemma Ready.portal_behind (hs : Ready isFromServerToClient s) (hd : s.disposer ≠ .idle) :
    s.portal.phase = .behind := by
  rcases hs.order.course.disposer hd with h | h <;> rw [h] <;> rfl

lemma kindOf_eq_destination : kindOf isFromServerToClient = .destination ↔
    isFromServerToClient = true := by
  cases isFromServerToClient <;> simp [kindOf]

/-- Only a channel that leaves its loop leaves `invoke_channel`. -/
lemma call_eq_leave {c : ℕ} {r : Bool} (h : s.call a = .leave c r) : a = .transferred c r := by
  cases a with
  | transferred =>
    cases h
    rfl
  | portal | portalOp =>
    simp only [State.call] at h
    split_ifs at h
  | channel | dispose =>
    simp only [State.call] at h
    split at h <;> try split_ifs at h
    all_goals cases h
  | _ => cases h

lemma disposal_startDispose (d : DisposerPc) :
    (if d = .idle then .disposeSocket else d).disposal = d.disposal := by
  split_ifs with hd
  · rw [hd]
    rfl
  · rfl

lemma move_portal (hs : Ready isFromServerToClient s) (hfault : s'.fault = none)
    (hruns : s.portal.Runs) (h : PortalStep isFromServerToClient s s') :
    Move s.total s.side (kindOf isFromServerToClient) (s.call .portal) s'.side := by
  cases h with
  | useNull | transferNull | signalCount | invokeNullSocket => cases hfault
  | opFailed hpc | information hpc | recvVersion hpc | sendRequest hpc | recvResponse hpc
  | initInfo hpc | exchange hpc =>
    rw [hpc] at hruns
    exact hruns.elim
  | refuse hpc hrundown =>
    have hd : s.disposer ≠ .idle := fun hd => by
      have hstage := hs.order.inv.teardown.rundown.mp hrundown
      rw [hd] at hstage
      exact absurd hstage (by decide)
    have hphase := hs.portal_behind hd
    rw [hpc] at hphase
    cases hphase
  | refused hpc => exact absurd hpc (hs.order.inv.teardown.refused _).1
  | joined hpc => exact absurd hpc (hs.order.inv.teardown.refused _).2
  | @create k hpc hk =>
    have hchan := hs.order.inv.threads.absent hpc
    have hside : ((s.setChan k .connecting).setPortal (.adding k)).side = s.side := by
      have hconnecting : (s.setChan k .connecting).side = s.side :=
        s.side_setChan_of_eq (by rw [hchan]; rfl)
      rw [← hconnecting]
      simp [State.side, State.setPortal, State.setChan, hpc, PortalPc.phase]
    simp only [State.call, hpc]
    exact .of_eq hside
  | use hpc | add hpc | buildRequest hpc | setCallback hpc | setReady hpc | assertTransfer hpc
  | storeFailed hpc | storeSucceeded hpc | storeNothing hpc | requireExit hpc =>
    simp only [State.call, hpc]
    refine .of_eq ?_
    simp [State.side, State.setPortal, hpc, PortalPc.phase]
  | created hpc | signalReady hpc =>
    simp only [State.call, hpc]
    refine .of_eq ?_
    simp only [State.side, State.setPortal, hpc]
    split_ifs <;> rfl
  | invoke hpc =>
    have hbefore : s.side.portal = .before := by simp [State.side, hpc, PortalPc.phase]
    simp only [State.call, hpc]
    cases isFromServerToClient with
    | true => exact .wait hbefore
    | false => exact .invoke hbefore
  | waitFinished hpc =>
    have hwaiting : s.side.portal = .waiting := by simp [State.side, hpc, PortalPc.phase]
    rw [State.call, if_pos hpc]
    cases isFromServerToClient with
    | true => exact .wake hwaiting
    | false => exact absurd hpc (hs.order.members.upload rfl).2.2.1
  | exit hpc =>
    simp only [State.call, hpc]
    refine .of_eq ?_
    rw [startDispose_eq]
    simp [State.side, State.setPortal, hpc, PortalPc.phase, disposal_startDispose]

/-- The thread of a channel that is at work finds that the client is not being disposed. -/
lemma Ready.idle {c : ℕ} (hs : Ready isFromServerToClient s) (hchan : s.chan c ≠ .absent)
    (hbefore : (s.chan c).BeforeResult) : s.disposer = .idle :=
  hs.order.course.idle hs.order.inv hs.order.results hchan hbefore

lemma move_channel {c : ℕ} (hs : Ready isFromServerToClient s) (hfault : s'.fault = none)
    (hruns : (s.chan c).Runs) (h : ChannelStep isFromServerToClient s c s') :
    Move s.total s.side (kindOf isFromServerToClient) (s.call (.channel c)) s'.side := by
  have hupload : isFromServerToClient = false → ∀ r, s.chan c ≠ .signalFinished r ∧
      s.chan c ≠ .setFinished r := fun hd r => (hs.order.members.upload hd).2.2.2.2 c r
  cases h with
  | transferNull => cases hfault
  | connected hpc | notConnected hpc | transferred hpc =>
    rw [hpc] at hruns
    exact hruns.elim
  | waitReady hpc | checkNormal hpc | assertTransfer hpc | storeNothing hpc =>
    simp only [State.call, hpc]
    exact .of_eq (s.side_setChan_of_eq (by rw [hpc]; rfl))
  | checkDisposed hpc hd =>
    exact absurd (hs.idle (by rw [hpc]; nofun) (by rw [hpc]; trivial)) hd
  | storeFailed hpc =>
    have hresult := hs.order.course.result hs.order.results (.inr (.inr hpc))
    cases hresult
  | invoke hpc =>
    have hlt := hs.order.inv.threads.total c (by rw [hpc]; nofun)
    simp only [State.call, hpc]
    rw [State.side_setChan]
    refine .enter hlt (by simp [State.side, hpc, ChannelPc.phase]) fun hkind => ?_
    exact (hs.gate (kindOf_eq_destination.mp hkind)).chan c (.inl (by rw [hpc]; trivial))
  | @signalFinished result hpc =>
    simp only [State.call, hpc]
    rw [State.side_setChan]
    cases isFromServerToClient with
    | true =>
      have hphase : (if s.gateAllChannelsFinished.increment.reached then
          ChannelPc.setFinished result else .storeStatus result).phase =
            if s.gateAllChannelsFinished.increment.reached then .setting else .behind := by
        split_ifs <;> rfl
      rw [hphase]
      exact .signal (v := s.side) (by simp [State.side, hpc, ChannelPc.phase])
    | false => exact absurd hpc (hupload rfl result).1
  | @setFinished result hpc =>
    simp only [State.call, hpc]
    rw [State.side_setChan]
    cases isFromServerToClient with
    | true => exact .set (v := s.side) (by simp [State.side, hpc, ChannelPc.phase])
    | false => exact absurd hpc (hupload rfl result).2
  | @exit success hpc =>
    obtain rfl := hs.order.course.exit c success hpc
    simp only [State.call, hpc]
    exact .of_eq (s.side_setChan_of_eq (by rw [hpc]; rfl))

lemma move_dispose (hs : Ready isFromServerToClient s) (h : DisposeStep s s') :
    Move s.total s.side (kindOf isFromServerToClient) (s.call .dispose) s'.side := by
  have hbehind : s.disposer ≠ .idle → s.side.portal = .behind := hs.portal_behind
  cases h with
  | disposeSocket hd =>
    simp only [State.call, hd]
    have hmove : Move s.total s.side (kindOf isFromServerToClient) .closePortal
        { s.side with portalOpen := false } := .closePortal (hbehind (by rw [hd]; nofun))
    convert hmove using 1
    simp [State.side, State.setDisposer, hd, DisposerPc.disposal]
  | ifTransfer hd =>
    have hopen : s.socketOpen = false := by
      by_contra hopen
      have hstage := hs.order.inv.teardown.socketOpen.mpr (by simpa using hopen)
      rw [hd] at hstage
      exact absurd hstage (by decide)
    simp only [State.call, hd]
    exact .close (v := s.side) (hbehind (by rw [hd]; nofun)) hopen
      (by simp [State.side, hd, DisposerPc.disposal])
  | noTransfer hd htransfer =>
    have hinit : s.main ≠ .init := fun hinit => by
      have hidle := (hs.order.inv.teardown.init hinit).1
      rw [hd] at hidle
      cases hidle
    rw [hs.order.members.transfer hinit (by rw [hd]; decide)] at htransfer
    cases htransfer
  | forceFinished hd hgate =>
    simp only [State.call, hd, if_pos hgate]
    cases isFromServerToClient with
    | true => exact .force (v := s.side) (by simp [State.side, hd, DisposerPc.disposal]) hgate
    | false =>
      rw [(hs.order.members.upload rfl).1] at hgate
      exact absurd hgate (by decide)
  | disposeTransfer hd hgate =>
    have hnot : ¬ s.gateAllChannelsFinished.initialized = true := by rw [hgate]; nofun
    simp only [State.call, hd, if_neg hnot]
    cases isFromServerToClient with
    | true =>
      have hpast : s.portal.PastReady := by
        rcases hs.order.course.disposer (by rw [hd]; nofun) with h | h <;> rw [h] <;> trivial
      exact absurd ((hs.gate rfl).ready (by rw [hd]; decide) (hs.order.members.ready hpast)) hnot
    | false => exact .release (v := s.side) (by simp [State.side, hd, DisposerPc.disposal])
  | setFinished hd =>
    simp only [State.call, hd]
    cases isFromServerToClient with
    | true => exact .setForced (v := s.side) (by simp [State.side, hd, DisposerPc.disposal])
    | false => exact absurd hd (hs.order.members.upload rfl).2.2.2.1
  | @disposeChannel c rest hd =>
    simp only [State.call, hd]
    have hmove : Move s.total s.side (kindOf isFromServerToClient) .none { s.side with
        chanOpen := Function.update s.side.chanOpen c false } :=
      .closeChannel (hbehind (by rw [hd]; nofun))
    convert hmove using 1
    simp [State.side, State.setDisposer, hd, DisposerPc.disposal]
  | resetSocket hd | resetTransfer hd | forceReady hd | setReady hd | joinPortal hd
  | acquireRundown hd | clear hd | joinChannel hd =>
    simp only [State.call, hd]
    refine .of_eq ?_
    simp [State.side, State.setDisposer, hd, DisposerPc.disposal]

lemma move_main (h : MainStep s s') (hinit : s.main ≠ .init) : s'.side = s.side := by
  cases h with
  | noTransfer hpc | notConnected hpc | connected hpc => exact absurd hpc hinit
  | dispose =>
    rw [startDispose_eq]
    simp [State.side, State.setMain, disposal_startDispose]
  | waitExit | waitDispose | read => rfl

lemma move_init (hs : Ready isFromServerToClient s) (h : s.init .connected = some s') :
    s'.side = s.side := by
  unfold State.init at h
  split_ifs at h with hpc
  cases h
  simp [State.side, State.setMain, (hs.order.inv.teardown.init hpc).2, PortalPc.phase]

lemma move_portalOp (h : s.portalOp isFromServerToClient true = some s') :
    Move s.total s.side (kindOf isFromServerToClient) (s.call (.portalOp true)) s'.side := by
  unfold State.portalOp at h
  split at h
  · next op hpc =>
    by_cases hopen : s.socketOpen = true
    swap
    · rw [if_pos rfl, if_neg hopen] at h
      cases h
    rw [if_pos rfl, if_pos hopen] at h
    simp only [State.call, hpc]
    refine .of_eq ?_
    cases op <;> cases h <;> cases isFromServerToClient <;>
      simp [State.side, State.setPortal, hpc, PortalPc.phase]
  · next hpc =>
    split_ifs at h
    cases h
    rw [State.call, if_pos hpc]
    exact .exchange (v := s.side) (by simp [State.side, hpc, PortalPc.phase])
  · cases h

lemma move_initInfo (hs : Ready isFromServerToClient s) (hfault : s'.fault = none)
    (h : s.initInfo true = some s') :
    Move s.total s.side (kindOf isFromServerToClient) .none s'.side := by
  unfold State.initInfo at h
  by_cases hpc : s.portal = .initInfo
  swap
  · rw [if_neg hpc] at h
    cases h
  rw [if_pos hpc] at h
  cases htransfer : s.transfer with
  | false =>
    rw [if_neg (by simp [htransfer])] at h
    cases h
    cases hfault
  | true =>
    rw [if_pos htransfer] at h
    by_cases htotal : 0 < s.total ∧ s.total < invalidSignalCount
    swap
    · rw [if_neg htotal] at h
      cases h
      cases hfault
    rw [if_pos htotal, if_pos rfl] at h
    cases h
    cases isFromServerToClient with
    | false => exact absurd hpc (hs.order.members.upload rfl).2.1
    | true =>
      have hgate := hs.gate rfl
      have hidle : s.disposer = .idle := by
        by_contra hd
        have hphase := hs.portal_behind hd
        rw [hpc] at hphase
        cases hphase
      have hfresh : s.gateAllChannelsFinished = {} := by
        refine hgate.fresh (by rw [hidle]; decide) (by_contra fun hinit => ?_)
        have hpast := (hgate.total (by simpa using hinit)).1
        rw [hpc] at hpast
        rcases hpast with h | h | h | h <;> cases h
      have hside : ({ s with
          gateAllChannelsFinished := { atLeastSignal := s.total } }.setPortal .setCallback).side =
            { s.side with gate := { atLeastSignal := s.total } } := by
        simp [State.side, State.setPortal, hpc, PortalPc.phase]
      rw [hside]
      exact .initialise (v := s.side) htotal.1 hfresh

lemma move_transferred {c : ℕ} (h : s.transferred isFromServerToClient c true = some s') :
    Move s.total s.side (kindOf isFromServerToClient) (.leave c true) s'.side := by
  by_cases hpc : s.chan c = .transferring ∧ (true = true → s.chanOpen c = true)
  swap
  · rw [State.transferred, if_neg hpc] at h
    cases h
  rw [State.transferred, if_pos hpc] at h
  cases h
  rw [State.side_setChan]
  have hinside : s.side.phase c = .inside := by simp [State.side, hpc.1, ChannelPc.phase]
  cases isFromServerToClient with
  | true => exact .leaveDestination hinside
  | false => exact .leaveSource hinside

/-- What an orderly step of the client does to its side. -/
lemma move_of_step (hs : Ready isFromServerToClient s) (hfault : s'.fault = none)
    (ha : Orderly s a) (h : s.step isFromServerToClient a = some s') :
    Move s.total s.side (kindOf isFromServerToClient) (s.call a) s'.side := by
  have hnot : ¬ s.fault ≠ none := not_not.mpr hs.order.fault
  unfold State.step at h
  rw [if_neg hnot] at h
  cases a with
  | init r =>
    obtain rfl : r = .connected := ha
    exact .of_eq (move_init hs h)
  | main =>
    replace h : s.mainStep = some s' := h
    refine .of_eq (move_main (.of_mainStep h) fun hpc => ?_)
    rw [State.mainStep, hpc] at h
    cases h
  | signal => exact ha.elim
  | portal =>
    replace h : s.portalStep isFromServerToClient = some s' := h
    exact move_portal hs hfault (portal_runs (Option.isSome_of_eq_some h)) (.of_portalStep h)
  | information total =>
    replace h : s.information total = some s' := h
    unfold State.information at h
    split_ifs at h with hpc
    cases h
    refine .of_eq ?_
    simp [State.side, State.setPortal, hpc.1, PortalPc.phase]
  | portalOp ok =>
    obtain ⟨rfl, -⟩ := ha
    exact move_portalOp h
  | initInfo ok =>
    obtain rfl : ok = true := ha
    exact move_initInfo hs hfault h
  | channel c =>
    replace h : s.channelStep c = some s' := h
    exact move_channel hs hfault (channel_runs (Option.isSome_of_eq_some h)) (.of_channelStep h)
  | connected c ok =>
    obtain rfl : ok = true := ha
    replace h : s.connected c true = some s' := h
    by_cases hpc : s.chan c = .connecting
    · rw [State.connected, if_pos hpc] at h
      cases h
      exact .of_eq (s.side_setChan_of_eq (by rw [hpc]; rfl))
    · rw [State.connected, if_neg hpc] at h
      cases h
  | transferred c result =>
    obtain rfl : result = true := ha
    exact move_transferred h
  | dispose => exact move_dispose hs (.of_disposeStep h)

end ClientPortal

/-! ### The server -/

namespace ClientInstance

def ChannelPc.phase : ChannelPc → Phase
  | .transferring _ => .inside
  | .signalFinished _ => .signalling
  | .setFinished _ => .setting
  | .exit _ | .done => .behind
  | _ => .before

def PortalPc.phase : PortalPc → PortalPhase
  | .waitFinished => .waiting
  | .exchange => .exchanging
  | .exit | .done => .behind
  | _ => .before

def DisposerPc.disposal : DisposerPc → Disposal
  | .idle | .disposeSocket | .resetSocket | .forceAll | .setAll | .forceReady | .setReady
  | .ifTransfer => .before
  | .disposeTransfer => .closing
  | .setFinished => .setting
  | _ => .behind

namespace State

variable (s : State)

/-- What the transfer of an instance sees. -/
def side : Side where
  phase c := (s.chan c).phase
  portal := s.portal.phase
  gate := s.gateAllChannelsFinished
  disposal := s.disposer.disposal
  chanOpen := s.chanOpen
  portalOpen := s.socketOpen

/-- What an action does to the transfer of an instance. -/
def call : Action → Call
  | .portal => if s.portal = .waitFinished then .wake else .none
  | .portalOp ok => if s.portal = .exchange then .exchange ok else .none
  | .channel c =>
    match s.chan c with
    | .signalFinished _ => .signal c
    | .setFinished _    => .set c
    | _ => .none
  | .transferred c result => .leave c result
  | .dispose =>
    match s.disposer with
    | .disposeSocket   => .closePortal
    | .disposeTransfer =>
      if s.transfer = some .destination ∧ s.gateAllChannelsFinished.initialized then .force
      else .release
    | .setFinished     => .setForced
    | _ => .none
  | _ => .none

lemma side_setChan (c : ℕ) (pc : ChannelPc) : (s.setChan c pc).side = s.side.setPhase c pc.phase := by
  unfold side Side.setPhase setChan
  congr 1
  funext i
  exact Function.apply_update (fun _ => ChannelPc.phase) s.chan c pc i

/-- A step that the transfer does not see. -/
lemma side_setChan_of_eq {c : ℕ} {pc : ChannelPc} (h : (s.chan c).phase = pc.phase) :
    (s.setChan c pc).side = s.side := by
  rw [side_setChan]
  exact Side.setPhase_of_eq h

end State

variable {n : ℕ} {kind : TransferKind} {s s' : State} {a : Action}

lemma InOrder.portal_behind (hs : InOrder n kind s) (hd : s.disposer ≠ .idle) :
    s.side.portal = .behind := by
  simp [State.side, hs.course.disposer hd, PortalPc.phase]

/-- Only a channel that leaves its loop leaves `invoke_channel`. -/
lemma call_eq_leave {c : ℕ} {r : Bool} (h : s.call a = .leave c r) : a = .transferred c r := by
  cases a with
  | transferred =>
    cases h
    rfl
  | portal | portalOp =>
    simp only [State.call] at h
    split_ifs at h
  | channel | dispose =>
    simp only [State.call] at h
    split at h <;> try split_ifs at h
    all_goals cases h
  | _ => cases h

lemma disposal_startDispose (d : DisposerPc) :
    (if d = .idle then .disposeSocket else d).disposal = d.disposal := by
  split_ifs with hd
  · rw [hd]
    rfl
  · rfl

/-- The portal thread knows its transfer. -/
lemma InOrder.transfer_eq (hs : InOrder n kind s) (hpc : s.portal = .created ∨ s.portal.Initialised) :
    s.transfer = some kind := by
  have hidle : s.disposer = .idle := by
    by_contra hd
    have hdone := hs.course.disposer hd
    rw [hdone] at hpc
    rcases hpc with h | h | h | h <;> cases h
  obtain ⟨k, hk⟩ := Option.isSome_iff_exists.mp
    (hs.inv.transferring.isSome (by rw [hidle]; decide) hpc)
  rw [hk, hs.course.transfer k hk]

lemma move_portal (hs : InOrder n kind s) (hfault : s'.fault = none) (hruns : s.portal.Runs)
    (h : PortalStep n s s') : Move n s.side kind (s.call .portal) s'.side := by
  cases h with
  | useNull | createdNull | invokeNull | invokeNullSocket => cases hfault
  | opDone hpc | opFailed hpc | create hpc | createError hpc | createException hpc
  | createdSource hpc | createdDestination hpc | exchange hpc =>
    rw [hpc] at hruns
    exact hruns.elim
  | checkDisposed hpc hd =>
    have hphase := hs.portal_behind hd
    simp [State.side, hpc, PortalPc.phase] at hphase
  | use hpc | waitAll hpc | checkNormal hpc | setReady hpc =>
    simp only [State.call, hpc]
    refine .of_eq ?_
    simp [State.side, State.setPortal, hpc, PortalPc.phase]
  | signalReady hpc =>
    simp only [State.call, hpc]
    refine .of_eq ?_
    simp only [State.side, State.setPortal, hpc]
    split_ifs <;> rfl
  | invokeSource hpc htransfer =>
    have heq := hs.transfer_eq (.inr (by rw [hpc]; exact .inr (.inr trivial)))
    obtain rfl : kind = .source := Option.some.inj (heq.symm.trans htransfer)
    simp only [State.call, hpc]
    exact .invoke (v := s.side) (by simp [State.side, hpc, PortalPc.phase])
  | invokeDestination hpc htransfer =>
    have heq := hs.transfer_eq (.inr (by rw [hpc]; exact .inr (.inr trivial)))
    obtain rfl : kind = .destination := Option.some.inj (heq.symm.trans htransfer)
    simp only [State.call, hpc]
    exact .wait (v := s.side) (by simp [State.side, hpc, PortalPc.phase])
  | waitFinished hpc =>
    have heq := hs.transfer_eq (.inr (by rw [hpc]; exact .inr (.inr trivial)))
    have hkind := hs.inv.transferring.kind hpc ?_
    · obtain rfl : kind = .destination := Option.some.inj (heq.symm.trans hkind)
      rw [State.call, if_pos hpc]
      exact .wake (v := s.side) (by simp [State.side, hpc, PortalPc.phase])
    · have hidle : s.disposer = .idle := by
        by_contra hd
        cases hpc.symm.trans (hs.course.disposer hd)
      rw [hidle]
      decide
  | exit hpc =>
    simp only [State.call, hpc]
    refine .of_eq ?_
    rw [startDispose_eq]
    simp [State.side, State.setPortal, hpc, PortalPc.phase, disposal_startDispose]

lemma move_channel {c : ℕ} (hs : InOrder n kind s) (hfault : s'.fault = none)
    (hruns : (s.chan c).Runs) (h : ChannelStep s c s') :
    Move n s.side kind (s.call (.channel c)) s'.side := by
  cases h with
  | assertNull | invokeNull => cases hfault
  | transferred hpc =>
    rw [hpc] at hruns
    exact hruns.elim
  | rejected hpc hrundown =>
    have hidle := (hs.course.idle (c := c) (by rw [hpc]; nofun) (by rw [hpc]; exact id)).1
    have hstage := hs.inv.locks.rundown.mp hrundown
    rw [hidle] at hstage
    exact absurd hstage (by decide)
  | checkDisposed hpc hd =>
    exact absurd (hs.course.idle (c := c) (by rw [hpc]; nofun) (by rw [hpc]; exact id)).1 hd
  | lookup hpc | lockSerial hpc | lockMutex hpc | add hpc | setAll hpc | waitReady hpc
  | checkNormal hpc | assertTransfer hpc =>
    simp only [State.call, hpc]
    exact .of_eq (s.side_setChan_of_eq (by rw [hpc]; rfl))
  | signalAll hpc =>
    simp only [State.call, hpc]
    refine .of_eq (State.side_setChan_of_eq _ ?_)
    rw [hpc]
    split_ifs <;> rfl
  | @invoke k hpc htransfer =>
    obtain rfl := hs.course.transfer k htransfer
    have hlt := hs.course.range c (by rw [hpc]; nofun)
    obtain ⟨hidle, hexit, -⟩ :=
      hs.course.idle (c := c) (by rw [hpc]; nofun) (by rw [hpc]; exact id)
    have hwaits := (hs.idle hidle).waits
    have hready := hwaits.ready (hwaits.chan c (by rw [hpc]; trivial))
    have hinit : s.portal.Initialised := by grind -linarith
    simp only [State.call, hpc]
    rw [State.side_setChan]
    refine .enter hlt (by simp [State.side, hpc, ChannelPc.phase]) fun hkind => ?_
    exact hs.inv.transferring.initialized hinit (by rw [htransfer, hkind])
  | @signalFinished result hpc =>
    obtain rfl := hs.course.upload c result (.inl hpc)
    simp only [State.call, hpc]
    rw [State.side_setChan]
    have hphase : (if s.gateAllChannelsFinished.increment.reached then
        ChannelPc.setFinished result else .exit result).phase =
          if s.gateAllChannelsFinished.increment.reached then .setting else .behind := by
      split_ifs <;> rfl
    rw [hphase]
    exact .signal (v := s.side) (by simp [State.side, hpc, ChannelPc.phase])
  | @setFinished result hpc =>
    obtain rfl := hs.course.upload c result (.inr hpc)
    simp only [State.call, hpc]
    rw [State.side_setChan]
    exact .set (v := s.side) (by simp [State.side, hpc, ChannelPc.phase])
  | @exit result hpc =>
    obtain rfl := hs.course.result c result (.inr (.inr hpc))
    simp only [State.call, hpc]
    exact .of_eq (s.side_setChan_of_eq (by rw [hpc]; rfl))

lemma InOrder.not_beforeInitialised (hs : InOrder n kind s) (hd : s.disposer ≠ .idle) :
    ¬ s.portal.BeforeInitialised := by
  rw [hs.course.disposer hd]
  exact id

lemma move_dispose (hs : InOrder n kind s) (h : DisposeStep s s') :
    Move n s.side kind (s.call .dispose) s'.side := by
  have hbehind : s.disposer ≠ .idle → s.side.portal = .behind := hs.portal_behind
  have htransfer : s.disposer ≠ .idle → s.disposer.stage ≤ 10 → s.transfer = some kind :=
    fun hd hstage => hs.setUp.transfer (hs.not_beforeInitialised hd) hstage
  cases h with
  | disposeSocket hd =>
    simp only [State.call, hd]
    have hmove : Move n s.side kind .closePortal { s.side with portalOpen := false } :=
      .closePortal (hbehind (by simp [hd]))
    convert hmove using 1
    simp [State.side, State.setDisposer, hd, DisposerPc.disposal]
  | ifTransfer hd =>
    have hopen : s.socketOpen = false := hs.inv.teardown.socketOpen (by rw [hd]; decide)
    simp only [State.call, hd]
    exact .close (v := s.side) (hbehind (by simp [hd])) hopen
      (by simp [State.side, hd, DisposerPc.disposal])
  | noTransfer hd hnone =>
    rw [htransfer (by simp [hd]) (by rw [hd]; decide)] at hnone
    cases hnone
  | forceFinished hd hkind hgate =>
    obtain rfl : kind = .destination := (hs.course.transfer _ hkind).symm
    simp only [State.call, hd, if_pos (And.intro hkind hgate)]
    exact .force (v := s.side) (by simp [State.side, hd, DisposerPc.disposal]) hgate
  | disposeTransfer hd hgate =>
    have hkind := htransfer (by simp [hd]) (by rw [hd]; decide)
    cases kind with
    | source =>
      have hnot : ¬ (s.transfer = some .destination ∧
          s.gateAllChannelsFinished.initialized = true) := by
        simp [hkind]
      simp only [State.call, hd, if_neg hnot]
      exact .release (v := s.side) (by simp [State.side, hd, DisposerPc.disposal])
    | destination =>
      have hinit := hs.setUp.gate (hs.not_beforeInitialised (by simp [hd])) rfl
      rw [hgate hkind] at hinit
      cases hinit
  | setFinished hd =>
    obtain rfl := hs.course.forced hd
    simp only [State.call, hd]
    exact .setForced (v := s.side) (by simp [State.side, hd, DisposerPc.disposal])
  | @disposeChannel c rest hd =>
    simp only [State.call, hd]
    have hmove : Move n s.side kind .none { s.side with
        chanOpen := Function.update s.side.chanOpen c false } :=
      .closeChannel (hbehind (by simp [hd]))
    convert hmove using 1
    simp [State.side, State.setDisposer, hd, DisposerPc.disposal]
  | resetSocket hd | forceAll hd | setAll hd | forceReady hd | setReady hd | resetTransfer hd
  | joinPortal hd | lockSerial hd | lockMutex hd | clear hd | joinChannel hd | remove hd =>
    simp only [State.call, hd]
    refine .of_eq ?_
    simp [State.side, State.setDisposer, hd, DisposerPc.disposal]

lemma move_portalOp (hs : InOrder n kind s) (h : s.portalOp true = some s') :
    Move n s.side kind (s.call (.portalOp true)) s'.side := by
  have hanswers := hs.course.answers.2
  unfold State.portalOp at h
  split at h
  · next op hpc =>
    rw [if_pos rfl] at h
    split_ifs at h
    cases h
    simp only [State.call, hpc]
    refine .of_eq ?_
    cases op with
    | sendErrorResponse => exact absurd hpc hanswers
    | _ => simp [State.side, State.setPortal, hpc, PortalPc.phase, SocketOp.next]
  · next hpc =>
    split_ifs at h
    cases h
    rw [State.call, if_pos hpc]
    exact .exchange (v := s.side) (by simp [State.side, hpc, PortalPc.phase])
  · cases h

lemma move_initialise (hs : InOrder n kind s) (hfault : s'.fault = none)
    (h : s.initialise n .ok = some s') : Move n s.side kind .none s'.side := by
  unfold State.initialise at h
  split at h
  · next hpc =>
    rw [hs.transfer_eq (.inl hpc)] at h
    have hfresh := hs.course.fresh (.inr (by rw [hpc]; trivial))
    cases kind with
    | source =>
      cases h
      refine .of_eq ?_
      simp [State.side, State.setPortal, hpc, PortalPc.phase]
    | destination =>
      cases h
      have hmove : Move n s.side .destination .none { s.side with gate := { atLeastSignal := n } } :=
        .initialise hs.pos hfresh
      convert hmove using 1
      simp [State.side, State.setPortal, hpc, PortalPc.phase]
  · cases h

lemma move_transferred {c : ℕ} (hs : InOrder n kind s) (h : s.transferred c true = some s') :
    Move n s.side kind (.leave c true) s'.side := by
  unfold State.transferred at h
  split at h
  · next k hpc =>
    obtain rfl := hs.course.transferring c k hpc
    have hinside : s.side.phase c = .inside := by simp [State.side, hpc, ChannelPc.phase]
    by_cases hopen : true = true ∧ ¬ s.chanOpen c = true
    · rw [if_pos hopen] at h
      cases h
    rw [if_neg hopen] at h
    cases h
    rw [State.side_setChan]
    cases k with
    | source => exact .leaveSource hinside
    | destination => exact .leaveDestination hinside
  · cases h

/-- What an orderly step of an instance does to its side. -/
lemma move_of_step (hs : InOrder n kind s) (hfault : s'.fault = none) (ha : Orderly n kind s a)
    (h : s.step n a = some s') : Move n s.side kind (s.call a) s'.side := by
  unfold State.step at h
  rw [if_neg (not_not.mpr hs.fault)] at h
  cases a with
  | portal =>
    replace h : s.portalStep = some s' := h
    exact move_portal hs hfault (portal_runs (Option.isSome_of_eq_some h)) (.of_portalStep h)
  | portalOp ok =>
    obtain ⟨rfl, -⟩ := ha
    exact move_portalOp hs h
  | create r =>
    obtain rfl : r = .created kind := ha
    replace h : s.create (.created kind) = some s' := h
    cases hpc : s.portal with
    | create =>
      simp only [State.create, hpc, Option.some.injEq] at h
      subst h
      refine .of_eq ?_
      simp [State.side, State.setPortal, hpc, PortalPc.phase]
    | _ => simp [State.create, hpc] at h
  | initialise r =>
    obtain rfl : r = .ok := ha
    exact move_initialise hs hfault h
  | channel c =>
    replace h : s.channelStep c = some s' := h
    exact move_channel hs hfault (channel_runs (Option.isSome_of_eq_some h)) (.of_channelStep h)
  | transferred c result =>
    obtain rfl : result = true := ha
    exact move_transferred hs h
  | startDispose | loseChannel | close => exact ha.elim
  | dispose => exact move_dispose hs (.of_disposeStep h)
  | openChannel c =>
    simp only [State.clientStep] at h
    split_ifs at h with hopen
    cases h
    exact .of_eq (State.side_setChan_of_eq _ (by rw [hopen.2]; rfl))
  | sendRequest =>
    simp only [State.clientStep] at h
    split_ifs at h
    cases h
    exact .of_eq rfl

end ClientInstance

end Xcp
