import Xcp.Client.PortalStep

/-!
# Invariants of a client

How far `dispose_impl` has come and what follows from it, which threads have been started, and that
all of them have ended when `dispose_impl` has.
-/

namespace Xcp

namespace ClientPortal

/-- How far `dispose_impl` has come. -/
def DisposerPc.stage : DisposerPc → ℕ
  | .idle            => 0
  | .disposeSocket   => 1
  | .resetSocket     => 2
  | .ifTransfer      => 3
  | .disposeTransfer => 4
  | .setFinished     => 5
  | .resetTransfer   => 6
  | .forceReady      => 7
  | .setReady        => 8
  | .joinPortal      => 9
  | .acquireRundown  => 10
  | .disposeChannel _ | .joinChannel _ _ => 11
  | .done            => 12

/-- The portal thread has ended or was never started. -/
def PortalPc.Ended (pc : PortalPc) : Prop := pc = .done ∨ pc = .absent

/-- The portal thread has not received the information yet. -/
def PortalPc.BeforeChannels : PortalPc → Prop
  | .absent | .use .recvVersion | .inside .recvVersion | .use .recvInformation
  | .inside .recvInformation => True
  | _ => False

/-- The portal thread has signalled that it is ready, or has given up. -/
def PortalPc.PastReady : PortalPc → Prop
  | .assertTransfer | .invoke | .waitFinished | .exchange | .storeStatus _ | .exit | .requireExit
  | .done => True
  | _ => False

/-- The thread of a channel has found that the client is not being disposed, and has not left. -/
def ChannelPc.PastCheck : ChannelPc → Prop
  | .assertTransfer | .invoke | .transferring | .signalFinished _ | .setFinished _
  | .storeStatus _ => True
  | _ => False

attribute [grind =] DisposerPc.stage PortalPc.BeforeChannels PortalPc.PastReady ChannelPc.PastCheck
attribute [grind] PortalPc.Ended

variable {isFromServerToClient : Bool} {s s' : State} {a : Action}

/-! ### What is torn down -/

/-- What `dispose_impl` has done to the socket, the transfer and the portal thread, and when it can
have begun. -/
structure Teardown (s : State) : Prop where
  socketOpen : s.disposer.stage ≤ 1 ↔ s.socketOpen = true
  socket : 3 ≤ s.disposer.stage → s.socket = false
  transfer : 7 ≤ s.disposer.stage → s.transfer = false
  portal : 10 ≤ s.disposer.stage → s.portal.Ended
  rundown : s.requiredRundown = true ↔ 11 ≤ s.disposer.stage
  refused : ∀ k, s.portal ≠ .refused k ∧ s.portal ≠ .joining k
  init : s.main = .init → s.disposer = .idle ∧ s.portal = .absent
  absent : s.portal = .absent → ∀ c, s.chan c = .absent

lemma Teardown.startDispose (hs : Teardown s) (hinit : s.main ≠ .init) :
    Teardown s.startDispose := by
  rw [startDispose_eq]
  obtain ⟨hopen, hsocket, htransfer, hportal, hrundown, hrefused, hmain, habsent⟩ := hs
  constructor <;> first | assumption | grind -linarith

lemma Teardown.mainStep (hs : Teardown s) (h : MainStep s s') : Teardown s' := by
  cases h with
  | dispose hpc =>
    have h := hs.startDispose (by rw [hpc]; nofun)
    exact ⟨h.socketOpen, h.socket, h.transfer, h.portal, h.rundown, h.refused, nofun, h.absent⟩
  | waitExit | waitDispose | read =>
    exact ⟨hs.socketOpen, hs.socket, hs.transfer, hs.portal, hs.rundown, hs.refused, nofun,
      hs.absent⟩
  | noTransfer | notConnected | connected =>
    obtain ⟨hopen, hsocket, htransfer, hportal, hrundown, hrefused, hmain, habsent⟩ := hs
    dsimp only [State.setMain]
    constructor <;> first | assumption | grind -linarith

lemma Teardown.portalStep (hs : Teardown s) (h : PortalStep isFromServerToClient s s') :
    Teardown s' := by
  obtain ⟨hopen, hsocket, htransfer, hportal, hrundown, hrefused, hmain, habsent⟩ := hs
  cases h with
  | exit =>
    rw [startDispose_eq]
    dsimp only [State.setPortal]
    constructor <;> first | assumption | grind -linarith
  | useNull | transferNull | signalCount | invokeNullSocket =>
    exact ⟨hopen, hsocket, htransfer, hportal, hrundown, hrefused, hmain, habsent⟩
  | _ =>
    dsimp only [State.setPortal, State.setChan]
    constructor <;> first | assumption | grind -linarith

lemma Teardown.channelStep {c : ℕ} (hs : Teardown s)
    (h : ChannelStep isFromServerToClient s c s') : Teardown s' := by
  obtain ⟨hopen, hsocket, htransfer, hportal, hrundown, hrefused, hmain, habsent⟩ := hs
  cases h with
  | @exit success hpc =>
    cases success with
    | true =>
      dsimp only [State.setChan]
      constructor <;> first | assumption | grind -linarith
    | false =>
      rw [startDispose_eq]
      dsimp only [State.setChan]
      constructor <;> first | assumption | grind -linarith
  | transferNull =>
    exact ⟨hopen, hsocket, htransfer, hportal, hrundown, hrefused, hmain, habsent⟩
  | _ =>
    dsimp only [State.setChan]
    constructor <;> first | assumption | grind -linarith

lemma Teardown.disposeStep (hs : Teardown s) (h : DisposeStep s s') : Teardown s' := by
  obtain ⟨hopen, hsocket, htransfer, hportal, hrundown, hrefused, hmain, habsent⟩ := hs
  cases h <;>
  · dsimp only [State.setDisposer]
    constructor <;> first | assumption | grind -linarith

lemma Teardown.step (hs : Teardown s) (h : Step isFromServerToClient s a s') : Teardown s' := by
  cases h with
  | main h => exact hs.mainStep h
  | signal =>
    exact ⟨hs.socketOpen, hs.socket, hs.transfer, hs.portal, hs.rundown, hs.refused, hs.init,
      hs.absent⟩
  | portal h => exact hs.portalStep h
  | channel h => exact hs.channelStep h
  | dispose _ h => exact hs.disposeStep h

/-! ### When channels transfer -/

/-- A channel transfers only behind the signal of the portal thread. -/
structure Started (s : State) : Prop where
  ready : s.disposer.stage ≤ 8 → s.gateClientPortalReady.isSet = true → s.portal.PastReady
  check : ∀ c, s.chan c = .check → s.gateClientPortalReady.isSet = true
  past : ∀ c, (s.chan c).PastCheck ∨ s.channelResult c ≠ none → s.portal.PastReady

lemma Started.mainStep (hs : Started s) (ht : Teardown s) (h : MainStep s s') : Started s' := by
  obtain ⟨hready, hcheck, hpast⟩ := hs
  cases h with
  | connected hpc =>
    have habsent := (ht.init hpc).2
    dsimp only [State.setMain]
    constructor <;> first | assumption | grind -linarith
  | dispose =>
    rw [startDispose_eq]
    dsimp only [State.setMain]
    constructor <;> first | assumption | grind -linarith
  | noTransfer | notConnected | waitExit | waitDispose | read => exact ⟨hready, hcheck, hpast⟩

lemma Started.portalStep (hs : Started s) (h : PortalStep isFromServerToClient s s') :
    Started s' := by
  obtain ⟨hready, hcheck, hpast⟩ := hs
  cases h with
  | exit =>
    rw [startDispose_eq]
    dsimp only [State.setPortal]
    constructor <;> first | assumption | grind -linarith
  | useNull | transferNull | signalCount | invokeNullSocket => exact ⟨hready, hcheck, hpast⟩
  | _ =>
    dsimp only [State.setPortal, State.setChan]
    constructor <;> first | assumption | grind -linarith

lemma Started.channelStep {c : ℕ} (hs : Started s)
    (h : ChannelStep isFromServerToClient s c s') : Started s' := by
  obtain ⟨hready, hcheck, hpast⟩ := hs
  cases h with
  | @exit success hpc =>
    cases success with
    | true =>
      dsimp only [State.setChan]
      constructor <;> first | assumption | grind -linarith
    | false =>
      rw [startDispose_eq]
      dsimp only [State.setChan]
      constructor <;> first | assumption | grind -linarith
  | transferNull => exact ⟨hready, hcheck, hpast⟩
  | _ =>
    dsimp only [State.setChan]
    constructor <;> first | assumption | grind -linarith

lemma Started.disposeStep (hs : Started s) (h : DisposeStep s s') : Started s' := by
  obtain ⟨hready, hcheck, hpast⟩ := hs
  cases h <;>
  · dsimp only [State.setDisposer]
    constructor <;> first | assumption | grind -linarith

lemma Started.step (hs : Started s) (ht : Teardown s) (h : Step isFromServerToClient s a s') :
    Started s' := by
  cases h with
  | main h => exact hs.mainStep ht h
  | signal => exact ⟨hs.ready, hs.check, hs.past⟩
  | portal h => exact hs.portalStep h
  | channel h => exact hs.channelStep h
  | dispose _ h => exact hs.disposeStep h

end ClientPortal

end Xcp
