import Xcp.Server.ClientInstanceStep

/-!
# Invariants of a client instance

How far `dispose_impl` has come, and what follows from it: the socket is disposed and then reset,
the gates are forced open, the gate of a destination is open once its transfer is reset, the portal
thread is done once it is joined, and the locks are held by those who are inside them.
-/

namespace Xcp

namespace ClientInstance

/-- How far `dispose_impl` has come. -/
def DisposerPc.stage : DisposerPc → ℕ
  | .idle            => 0
  | .disposeSocket   => 1
  | .resetSocket     => 2
  | .forceAll        => 3
  | .setAll          => 4
  | .forceReady      => 5
  | .setReady        => 6
  | .ifTransfer      => 7
  | .disposeTransfer => 8
  | .setFinished     => 9
  | .resetTransfer   => 10
  | .joinPortal      => 11
  | .lockSerial      => 12
  | .lockMutex       => 13
  | .disposeChannel _ | .joinChannel _ _ => 14
  | .remove          => 15
  | .done            => 16

attribute [grind =] DisposerPc.stage

variable {n : ℕ} {s s' : State} {a : Action}

lemma stage_eq_zero {d : DisposerPc} : d.stage = 0 ↔ d = .idle := by
  cases d <;> simp [DisposerPc.stage]

lemma stage_startDispose (s : State) : s.disposer.stage ≤ s.startDispose.disposer.stage := by
  unfold State.startDispose
  split_ifs with hd
  · rw [hd]
    exact Nat.zero_le _
  · exact le_rfl

/-- `dispose_impl` only goes on. -/
lemma Step.stage_le (h : Step n s a s') : s.disposer.stage ≤ s'.disposer.stage := by
  cases h with
  | portal _ h =>
    cases h with
    | exit => exact stage_startDispose s
    | _ => exact le_rfl
  | channel _ h =>
    cases h with
    | @exit result =>
      cases result with
      | true => exact le_rfl
      | false => exact stage_startDispose s
    | _ => exact le_rfl
  | startDispose hd =>
    rw [hd]
    exact Nat.zero_le _
  | dispose h => cases h <;> simp_all [State.setDisposer, DisposerPc.stage]
  | openChannel | loseChannel | sendRequest | close => exact le_rfl

/-- The portal thread is joined by `dispose_impl`. -/
lemma Step.joined (h : Step n s a s') (hstage : 12 ≤ s'.disposer.stage) :
    12 ≤ s.disposer.stage ∨ a = .dispose ∧ s.disposer = .joinPortal := by
  cases h with
  | portal _ h =>
    cases h with
    | exit =>
      rw [startDispose_eq] at hstage
      dsimp only [State.setPortal] at hstage
      grind -linarith
    | _ => exact .inl hstage
  | channel _ h =>
    cases h with
    | @exit result =>
      cases result with
      | true => exact .inl hstage
      | false =>
        rw [startDispose_eq] at hstage
        dsimp only [State.setChan] at hstage
        grind -linarith
    | _ => exact .inl hstage
  | startDispose => exact absurd hstage (by simp [State.setDisposer, DisposerPc.stage])
  | dispose h =>
    cases h with
    | joinPortal hd => exact .inr ⟨rfl, hd⟩
    | _ => simp_all [State.setDisposer, DisposerPc.stage]
  | openChannel | loseChannel | sendRequest | close => exact .inl hstage

/-! ### What is torn down -/

/-- What `dispose_impl` has done to the socket, the gates and the portal thread. -/
structure Teardown (s : State) : Prop where
  socket : s.disposer.stage ≤ 2 ↔ s.socket = true
  socketOpen : 2 ≤ s.disposer.stage → s.socketOpen = false
  all : 5 ≤ s.disposer.stage → s.gateAllChannelRepeatsConnected.isSet = true
  ready : 7 ≤ s.disposer.stage → s.gatePortalReadyToTransfer.isSet = true
  portal : 12 ≤ s.disposer.stage → s.portal = .done

lemma Teardown.startDispose (hs : Teardown s) : Teardown s.startDispose := by
  rw [startDispose_eq]
  obtain ⟨hsocket, hopen, hall, hready, hportal⟩ := hs
  split_ifs with hd
  · constructor <;> first | assumption | grind -linarith
  · exact ⟨hsocket, hopen, hall, hready, hportal⟩

lemma Teardown.portalStep (hs : Teardown s) (h : PortalStep n s s') : Teardown s' := by
  cases h with
  | exit hpc =>
    have h := hs.startDispose
    exact ⟨h.socket, h.socketOpen, h.all, h.ready, fun _ => rfl⟩
  | useNull | createdNull | invokeNull | invokeNullSocket =>
    exact ⟨hs.socket, hs.socketOpen, hs.all, hs.ready, hs.portal⟩
  | setReady hpc =>
    exact ⟨hs.socket, hs.socketOpen, hs.all, fun _ => rfl,
      fun hle => absurd (hpc.symm.trans (hs.portal hle)) nofun⟩
  | use hpc | opDone hpc | opFailed hpc | create hpc | createError hpc | createException hpc
  | createdSource hpc | createdDestination hpc | waitAll hpc | checkDisposed hpc | checkNormal hpc
  | signalReady hpc | invokeSource hpc | invokeDestination hpc | waitFinished hpc | exchange hpc =>
    exact ⟨hs.socket, hs.socketOpen, hs.all, hs.ready,
      fun hle => absurd (hpc.symm.trans (hs.portal hle)) nofun⟩

lemma Teardown.channelStep {c : ℕ} (hs : Teardown s) (h : ChannelStep s c s') : Teardown s' := by
  cases h with
  | setAll => exact ⟨hs.socket, hs.socketOpen, fun _ => rfl, hs.ready, hs.portal⟩
  | @exit result =>
    cases result with
    | true => exact ⟨hs.socket, hs.socketOpen, hs.all, hs.ready, hs.portal⟩
    | false =>
      have h := hs.startDispose
      exact ⟨h.socket, h.socketOpen, h.all, h.ready, h.portal⟩
  | _ => exact ⟨hs.socket, hs.socketOpen, hs.all, hs.ready, hs.portal⟩

lemma Teardown.disposeStep (hs : Teardown s) (h : DisposeStep s s') : Teardown s' := by
  obtain ⟨hsocket, hopen, hall, hready, hportal⟩ := hs
  cases h <;>
  · dsimp only [State.setDisposer]
    constructor <;> first | assumption | grind -linarith

lemma Teardown.step (hs : Teardown s) (h : Step n s a s') : Teardown s' := by
  cases h with
  | portal _ h => exact hs.portalStep h
  | channel _ h => exact hs.channelStep h
  | dispose h => exact hs.disposeStep h
  | startDispose hd =>
    have h := hs.startDispose
    rwa [State.startDispose, if_pos hd] at h
  | openChannel | loseChannel | sendRequest | close =>
    exact ⟨hs.socket, hs.socketOpen, hs.all, hs.ready, hs.portal⟩

/-! ### The transfer -/

/-- The portal thread has found that the instance is not being disposed, and has not left. -/
def PortalPc.BehindCheck : PortalPc → Prop
  | .use .sendResponse | .inside .sendResponse | .signalReady | .setReady | .invoke | .waitFinished
  | .exchange => True
  | _ => False

/-- The portal thread has initialised the transfer, and has not left. -/
def PortalPc.Initialised (pc : PortalPc) : Prop := pc = .waitAll ∨ pc = .check ∨ pc.BehindCheck

attribute [grind =] PortalPc.BehindCheck SocketOp.next
attribute [grind] PortalPc.Initialised

/-- The transfer is there while the portal thread relies on it, and once it is reset, a portal
thread that waits for the channels has been let go. -/
structure Transferring (s : State) : Prop where
  isSome : s.disposer.stage ≤ 10 → s.portal = .created ∨ s.portal.Initialised → s.transfer.isSome
  initialized : s.portal.Initialised → s.transfer = some .destination →
    s.gateAllChannelsFinished.initialized = true
  kind : s.portal = .waitFinished → s.disposer.stage ≤ 10 → s.transfer = some .destination
  forced : s.disposer = .resetTransfer → s.portal.BehindCheck → s.transfer = some .destination →
    s.gateAllChannelsFinished.isSet = true
  finished : s.portal = .waitFinished → 11 ≤ s.disposer.stage →
    s.gateAllChannelsFinished.isSet = true

lemma Transferring.portalStep (hn : n ≠ invalidSignalCount) (hs : Transferring s)
    (ht : Teardown s) (h : PortalStep n s s') : Transferring s' := by
  obtain ⟨hsome, hinit, hkind, hforced, hfinished⟩ := hs
  have hsocket := ht.socket
  cases h with
  | exit =>
    rw [startDispose_eq]
    dsimp only [State.setPortal]
    constructor <;> first | assumption | grind -linarith
  | @opDone op =>
    cases op <;>
    · dsimp only [State.setPortal]
      constructor <;> first | assumption | grind -linarith
  | useNull | createdNull | invokeNull | invokeNullSocket =>
    exact ⟨hsome, hinit, hkind, hforced, hfinished⟩
  | _ =>
    dsimp only [State.setPortal]
    constructor <;> first | assumption | grind -linarith

lemma Transferring.channelStep {c : ℕ} (hs : Transferring s) (h : ChannelStep s c s') :
    Transferring s' := by
  obtain ⟨hsome, hinit, hkind, hforced, hfinished⟩ := hs
  cases h with
  | signalFinished =>
    dsimp only [State.setChan]
    constructor <;> assumption
  | setFinished =>
    dsimp only [State.setChan]
    constructor <;> first | assumption | grind -linarith
  | @exit result =>
    cases result with
    | true => exact ⟨hsome, hinit, hkind, hforced, hfinished⟩
    | false =>
      rw [startDispose_eq]
      dsimp only [State.setChan]
      constructor <;> first | assumption | grind -linarith
  | _ => exact ⟨hsome, hinit, hkind, hforced, hfinished⟩

lemma Transferring.disposeStep (hs : Transferring s) (h : DisposeStep s s') : Transferring s' := by
  obtain ⟨hsome, hinit, hkind, hforced, hfinished⟩ := hs
  cases h <;>
  · dsimp only [State.setDisposer]
    constructor <;> first | assumption | grind -linarith

lemma Transferring.step (hn : n ≠ invalidSignalCount) (hs : Transferring s) (ht : Teardown s)
    (h : Step n s a s') : Transferring s' := by
  cases h with
  | portal _ h => exact hs.portalStep hn ht h
  | channel _ h => exact hs.channelStep h
  | dispose h => exact hs.disposeStep h
  | startDispose hd =>
    obtain ⟨hsome, hinit, hkind, hforced, hfinished⟩ := hs
    dsimp only [State.setDisposer]
    constructor <;> first | assumption | grind -linarith
  | openChannel | loseChannel | sendRequest | close =>
    exact ⟨hs.isSome, hs.initialized, hs.kind, hs.forced, hs.finished⟩

/-! ### The locks -/

/-- Who is inside the locks of the rundown protection. -/
structure Locks (s : State) : Prop where
  serial : ∀ c, s.chan c = .holdsSerial ↔ s.serial = some (.channel c)
  mutex : ∀ c, s.chan c = .holdsMutex ↔ s.mutex = some (.channel c)
  serialDisposer : s.serial = some .disposer ↔ s.disposer = .lockMutex
  mutexDisposer : s.mutex = some .disposer ↔ s.disposer.stage = 14
  rundown : s.requiredRundown = true ↔ 13 ≤ s.disposer.stage
  outside : 14 ≤ s.disposer.stage → ∀ c, s.chan c ≠ .holdsMutex

/-- A channel moves on that is outside of the locks, and stays outside. -/
lemma Locks.move {c : ℕ} {pc : ChannelPc} (hs : Locks s) (ht : s'.serial = s.serial)
    (hm : s'.mutex = s.mutex) (hr : s'.requiredRundown = s.requiredRundown)
    (hd : s'.disposer = s.disposer ∨ s.disposer = .idle ∧ s'.disposer = .disposeSocket)
    (hchan : s'.chan = Function.update s.chan c pc)
    (hpc : s.chan c ≠ .holdsSerial ∧ s.chan c ≠ .holdsMutex)
    (hpc' : pc ≠ .holdsSerial ∧ pc ≠ .holdsMutex) : Locks s' := by
  obtain ⟨hserial, hmutex, hserialD, hmutexD, hrundown, houtside⟩ := hs
  have hother : ∀ i, (s'.chan i = .holdsSerial ↔ s.chan i = .holdsSerial) ∧
      (s'.chan i = .holdsMutex ↔ s.chan i = .holdsMutex) := by
    intro i
    rw [hchan, Function.update_apply]
    split_ifs with hi
    · subst hi
      exact ⟨iff_of_false hpc'.1 hpc.1, iff_of_false hpc'.2 hpc.2⟩
    · exact ⟨Iff.rfl, Iff.rfl⟩
  constructor <;> first | assumption | grind -linarith

lemma Locks.channelStep {c : ℕ} (hs : Locks s) (h : ChannelStep s c s') : Locks s' := by
  cases h with
  | lockSerial hpc hfree | rejected hpc hfree =>
    obtain ⟨hserial, hmutex, hserialD, hmutexD, hrundown, houtside⟩ := hs
    dsimp only [State.setChan]
    constructor <;> first | assumption | grind -linarith
  | lockMutex hpc hrundown' hfree =>
    obtain ⟨hserial, hmutex, hserialD, hmutexD, hrundown, houtside⟩ := hs
    dsimp only [State.setChan]
    constructor <;> first | assumption | grind -linarith
  | add hpc =>
    obtain ⟨hserial, hmutex, hserialD, hmutexD, hrundown, houtside⟩ := hs
    dsimp only [State.setChan]
    constructor <;> first | assumption | grind -linarith
  | lookup hpc | signalAll hpc | setAll hpc | waitReady hpc | checkDisposed hpc | checkNormal hpc
  | assertTransfer hpc | invoke hpc | transferred hpc | signalFinished hpc | setFinished hpc =>
    refine hs.move rfl rfl rfl (.inl rfl) rfl (by rw [hpc]; exact ⟨nofun, nofun⟩) ?_
    grind -linarith
  | assertNull | invokeNull =>
    exact ⟨hs.serial, hs.mutex, hs.serialDisposer, hs.mutexDisposer, hs.rundown, hs.outside⟩
  | @exit result hpc =>
    have hpc' : s.chan c ≠ .holdsSerial ∧ s.chan c ≠ .holdsMutex := by
      rw [hpc]
      exact ⟨nofun, nofun⟩
    cases result with
    | true => exact hs.move rfl rfl rfl (.inl rfl) rfl hpc' ⟨nofun, nofun⟩
    | false =>
      rw [startDispose_eq]
      refine hs.move rfl rfl rfl ?_ rfl hpc' ⟨nofun, nofun⟩
      dsimp only [State.setChan]
      grind -linarith

lemma Locks.disposeStep (hs : Locks s) (h : DisposeStep s s') : Locks s' := by
  obtain ⟨hserial, hmutex, hserialD, hmutexD, hrundown, houtside⟩ := hs
  cases h <;>
  · dsimp only [State.setDisposer]
    constructor <;> first | assumption | grind -linarith

lemma Locks.step (hs : Locks s) (h : Step n s a s') : Locks s' := by
  cases h with
  | portal _ h =>
    cases h with
    | exit =>
      obtain ⟨hserial, hmutex, hserialD, hmutexD, hrundown, houtside⟩ := hs
      rw [startDispose_eq]
      dsimp only [State.setPortal]
      constructor <;> first | assumption | grind -linarith
    | _ => exact ⟨hs.serial, hs.mutex, hs.serialDisposer, hs.mutexDisposer, hs.rundown, hs.outside⟩
  | channel _ h => exact hs.channelStep h
  | dispose h => exact hs.disposeStep h
  | startDispose hd =>
    obtain ⟨hserial, hmutex, hserialD, hmutexD, hrundown, houtside⟩ := hs
    dsimp only [State.setDisposer]
    constructor <;> first | assumption | grind -linarith
  | openChannel _ hpc | loseChannel hpc =>
    exact hs.move rfl rfl rfl (.inl rfl) rfl (by rw [hpc]; exact ⟨nofun, nofun⟩) ⟨nofun, nofun⟩
  | sendRequest | close =>
    exact ⟨hs.serial, hs.mutex, hs.serialDisposer, hs.mutexDisposer, hs.rundown, hs.outside⟩

end ClientInstance

end Xcp
