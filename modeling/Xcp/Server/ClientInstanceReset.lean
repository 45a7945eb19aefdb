import Xcp.Server.ClientInstanceChannels

/-!
# What a client instance resets

`dispose_impl` resets `accepted_portal_socket` and `transfer` before it has joined the threads that
use them. These threads look at `is_dispose_required` once, if at all, so what keeps them from a
null pointer is only where they are when the pointer is reset.
-/

namespace Xcp

namespace ClientInstance

variable {n : ℕ} {s s' : State} {a : Action}

/-- The portal thread is going to use `accepted_portal_socket`, whatever it finds until then. -/
def PortalPc.AheadOfSocket : PortalPc → Prop
  | .use _ | .signalReady | .setReady | .invoke => True
  | _ => False

/-- The thread of a channel uses `transfer`, whatever it finds: it is between its look at
`is_dispose_required` and the call of `invoke_channel`, or inside `invoke_channel`. -/
def ChannelPc.UsesTransfer : ChannelPc → Prop
  | .assertTransfer | .invoke | .transferring _ | .signalFinished _ | .setFinished _ => True
  | _ => False

/-- The portal thread uses `transfer`: it is about to initialise it, or waits inside `invoke_portal`
for the gate of a destination. What follows there does not touch the object. -/
def PortalPc.UsesTransfer (pc : PortalPc) : Prop := pc = .created ∨ pc = .waitFinished

attribute [grind =] PortalPc.AheadOfSocket ChannelPc.UsesTransfer
attribute [grind] PortalPc.UsesTransfer

/-- A pointer is reset only while no thread is going to use it or uses the object behind it, which the
reset destroys, and the portal thread turns to the socket, to report a `transfer_error`, only while
it is there. -/
def Guarded (s : State) : Action → Prop
  | .dispose =>
    (s.disposer = .resetSocket → ¬ s.portal.AheadOfSocket) ∧
      (s.disposer = .resetTransfer →
        ¬ s.portal.UsesTransfer ∧ ∀ c, ¬ (s.chan c).UsesTransfer)
  | .create .transferError | .initialise .transferError => s.socket = true
  | _ => True

/-- No thread uses an object that is not there. -/
structure Intact (s : State) : Prop where
  portal : s.portal.UsesTransfer → s.transfer.isSome
  chan : ∀ c, (s.chan c).UsesTransfer → s.transfer.isSome

/-- No null pointer has been used, and no thread is on its way to one. -/
structure Unharmed (s : State) : Prop extends Intact s where
  fault : s.fault = none
  ahead : s.socket = false → ¬ s.portal.AheadOfSocket
  ready : s.disposer = .idle → s.gatePortalReadyToTransfer.isSet = true → s.transfer.isSome
  check : ∀ c, s.chan c = .check → s.gatePortalReadyToTransfer.isSet = true

lemma Unharmed.startDispose (hs : Unharmed s) : Unharmed s.startDispose := by
  rw [startDispose_eq]
  obtain ⟨⟨hportal, hchan⟩, hfault, hahead, hready, hcheck⟩ := hs
  refine ⟨⟨?_, ?_⟩, ?_, ?_, ?_, ?_⟩ <;> grind -linarith

lemma Unharmed.portalStep (hs : Unharmed s) (ht : Teardown s) (hr : Transferring s)
    (h : PortalStep n s s')
    (hg : s'.portal = .use .sendErrorResponse → s.portal = .use .sendErrorResponse ∨
      s.socket = true) : Unharmed s' := by
  obtain ⟨⟨hportal, hchan⟩, hfault, hahead, hready, hcheck⟩ := hs
  have hsocket := ht.socket
  have hopen := ht.socketOpen
  have hsome := hr.isSome
  cases h with
  | exit =>
    rw [startDispose_eq]
    dsimp only [State.setPortal]
    refine ⟨⟨?_, ?_⟩, ?_, ?_, ?_, ?_⟩ <;> grind -linarith
  | @opDone op =>
    cases op <;>
    · dsimp only [State.setPortal]
      refine ⟨⟨?_, ?_⟩, ?_, ?_, ?_, ?_⟩ <;> grind -linarith
  | _ =>
    dsimp only [State.setPortal, State.crash] at *
    refine ⟨⟨?_, ?_⟩, ?_, ?_, ?_, ?_⟩ <;> grind -linarith

lemma Unharmed.channelStep {c : ℕ} (hs : Unharmed s) (h : ChannelStep s c s') : Unharmed s' := by
  obtain ⟨⟨hportal, hchan⟩, hfault, hahead, hready, hcheck⟩ := hs
  cases h with
  | @exit result hpc =>
    cases result with
    | true =>
      dsimp only [State.setChan]
      refine ⟨⟨?_, ?_⟩, ?_, ?_, ?_, ?_⟩ <;> grind -linarith
    | false =>
      rw [startDispose_eq]
      dsimp only [State.setChan]
      refine ⟨⟨?_, ?_⟩, ?_, ?_, ?_, ?_⟩ <;> grind -linarith
  | _ =>
    dsimp only [State.setChan, State.crash]
    refine ⟨⟨?_, ?_⟩, ?_, ?_, ?_, ?_⟩ <;> grind -linarith

lemma Unharmed.disposeStep (hs : Unharmed s) (hg : Guarded s .dispose)
    (h : DisposeStep s s') : Unharmed s' := by
  obtain ⟨⟨hportal, hchan⟩, hfault, hahead, hready, hcheck⟩ := hs
  obtain ⟨hsocket, htransfer⟩ := hg
  cases h <;>
  · dsimp only [State.setDisposer]
    refine ⟨⟨?_, ?_⟩, ?_, ?_, ?_, ?_⟩ <;> grind -linarith

lemma SocketOp.next_ne_error (op : SocketOp) : op.next ≠ .use .sendErrorResponse := by
  cases op <;> nofun

/-- The portal thread turns to an error response only behind a `transfer_error`. -/
lemma sendErrorResponse_of_step (h : s.step n a = some s')
    (hpc : s'.portal = .use .sendErrorResponse) :
    s.portal = .use .sendErrorResponse ∨ a = .create .transferError ∨
      a = .initialise .transferError := by
  obtain ⟨hfault, hstep⟩ := Step.of_step h
  cases hstep with
  | portal ha hstep =>
    rcases ha with rfl | ⟨ok, rfl⟩ | ⟨r, rfl⟩ | ⟨r, rfl⟩
    · simp only [State.step, State.portalStep] at h
      grind -linarith [State.setPortal, State.crash, startDispose_eq]
    · simp only [State.step, State.portalOp] at h
      grind -linarith [State.setPortal, SocketOp.next_ne_error]
    · cases r with
      | transferError => exact .inr (.inl rfl)
      | created | exception =>
        simp only [State.step, State.create] at h
        grind -linarith [State.setPortal]
    · cases r with
      | transferError => exact .inr (.inr rfl)
      | ok | exception =>
        simp only [State.step, State.initialise] at h
        grind -linarith [State.setPortal, State.crash]
  | channel _ hstep => cases hstep <;> grind -linarith [State.setChan, State.crash, startDispose_eq]
  | dispose hstep => cases hstep <;> exact .inl hpc
  | startDispose | openChannel | loseChannel | sendRequest | close => exact .inl hpc

lemma Unharmed.step (hs : Unharmed s) (hi : Inv s) (hg : Guarded s a)
    (h : s.step n a = some s') : Unharmed s' := by
  have herror := sendErrorResponse_of_step h
  obtain ⟨-, hstep⟩ := Step.of_step h
  cases hstep with
  | portal _ hstep =>
    refine hs.portalStep hi.teardown hi.transferring hstep fun hpc => ?_
    rcases herror hpc with hpc | rfl | rfl
    · exact .inl hpc
    · exact .inr hg
    · exact .inr hg
  | channel _ hstep => exact hs.channelStep hstep
  | dispose hstep => exact hs.disposeStep hg hstep
  | startDispose hd =>
    have h := hs.startDispose
    rwa [State.startDispose, if_pos hd] at h
  | openChannel _ hpc | loseChannel hpc =>
    obtain ⟨⟨hportal, hchan⟩, hfault, hahead, hready, hcheck⟩ := hs
    dsimp only [State.setChan]
    refine ⟨⟨?_, ?_⟩, ?_, ?_, ?_, ?_⟩ <;> grind -linarith
  | sendRequest | close =>
    exact ⟨⟨hs.portal, hs.chan⟩, hs.fault, hs.ahead, hs.ready, hs.check⟩

/-- No null pointer is used in a run whose steps are all guarded. -/
lemma Unharmed.of_reach (h : (machine n).ReachIf Guarded s) : Unharmed s := by
  refine h.invariant ?_ fun s a s' hr hs hg hstep => hs.step (.of_reach hr) hg hstep
  rintro s ⟨-, -, rfl⟩
  refine ⟨⟨?_, ?_⟩, ?_, ?_, ?_, ?_⟩ <;>
    simp [ClientInstance.start, PortalPc.UsesTransfer, ChannelPc.UsesTransfer]

end ClientInstance

end Xcp
