import Xcp.Client.PortalThreads
import Xcp.Library.Runs
import Xcp.Server.ClientInstanceReset

/-!
# What a client resets

`dispose_impl` of the client resets `transfer` before it has joined the threads that use it. The
portal thread never looks at `is_dispose_required`, and a channel looks once. The last section joins
this with what the server resets.
-/

namespace Xcp

namespace ClientPortal

variable {isFromServerToClient : Bool} {s s' : State} {a : Action}

/-- The portal thread is going to use `transfer`, whatever it finds until then, or waits inside
`invoke_portal` for the gate of a destination. -/
def PortalPc.UsesTransfer (isFromServerToClient : Bool) : PortalPc → Prop
  | .creating _ | .adding _ => isFromServerToClient = false
  | .buildRequest | .initInfo | .setCallback | .signalReady | .setReady | .assertTransfer
  | .invoke | .waitFinished => True
  | _ => False

/-- The thread of a channel is between its look at `is_dispose_required` and the call of
`invoke_channel`, or inside `invoke_channel`. -/
def ChannelPc.UsesTransfer : ChannelPc → Prop
  | .assertTransfer | .invoke | .transferring | .signalFinished _ | .setFinished _ => True
  | _ => False

attribute [grind =] PortalPc.UsesTransfer ChannelPc.UsesTransfer

/-- `transfer` is reset, which destroys the object, only while no thread is going to use it or is
using it. -/
def Guarded (isFromServerToClient : Bool) (s : State) (a : Action) : Prop :=
  a = .dispose → s.disposer = .resetTransfer →
    ¬ s.portal.UsesTransfer isFromServerToClient ∧ ∀ c, ¬ (s.chan c).UsesTransfer

/-- No thread uses a transfer that is not there. -/
structure Intact (isFromServerToClient : Bool) (s : State) : Prop where
  portal : s.portal.UsesTransfer isFromServerToClient → s.transfer = true
  chan : ∀ c, (s.chan c).UsesTransfer → s.transfer = true

/-- `transfer` has not been used after its reset, and no thread is on its way to it. -/
structure Unharmed (isFromServerToClient : Bool) (s : State) : Prop
    extends Intact isFromServerToClient s where
  fault : s.fault ≠ some .nullTransfer
  transfer : s.portal ≠ .absent → s.disposer.stage ≤ 6 → s.transfer = true

lemma Unharmed.mainStep (hs : Unharmed isFromServerToClient s) (ht : Teardown s)
    (h : MainStep s s') : Unharmed isFromServerToClient s' := by
  have hinit := ht.init
  obtain ⟨⟨hportal, hchan⟩, hfault, htransfer⟩ := hs
  cases h with
  | dispose =>
    rw [startDispose_eq]
    dsimp only [State.setMain]
    refine ⟨⟨?_, ?_⟩, ?_, ?_⟩ <;> grind -linarith
  | _ =>
    dsimp only [State.setMain]
    refine ⟨⟨?_, ?_⟩, ?_, ?_⟩ <;> grind -linarith

lemma Unharmed.portalStep (hs : Unharmed isFromServerToClient s) (ht : Teardown s)
    (h : PortalStep isFromServerToClient s s') : Unharmed isFromServerToClient s' := by
  have hopen := ht.socketOpen
  obtain ⟨⟨hportal, hchan⟩, hfault, htransfer⟩ := hs
  cases h with
  | exit =>
    rw [startDispose_eq]
    dsimp only [State.setPortal]
    refine ⟨⟨?_, ?_⟩, ?_, ?_⟩ <;> grind -linarith
  | _ =>
    dsimp only [State.setPortal, State.setChan, State.crash]
    refine ⟨⟨?_, ?_⟩, ?_, ?_⟩ <;> grind -linarith

lemma Unharmed.channelStep {c : ℕ} (hs : Unharmed isFromServerToClient s) (ht : Teardown s)
    (h : ChannelStep isFromServerToClient s c s') : Unharmed isFromServerToClient s' := by
  have habsent := fun h => ht.absent h c
  obtain ⟨⟨hportal, hchan⟩, hfault, htransfer⟩ := hs
  cases h with
  | @exit success hpc =>
    cases success with
    | true =>
      dsimp only [State.setChan]
      refine ⟨⟨?_, ?_⟩, ?_, ?_⟩ <;> grind -linarith
    | false =>
      rw [startDispose_eq]
      dsimp only [State.setChan]
      refine ⟨⟨?_, ?_⟩, ?_, ?_⟩ <;> grind -linarith
  | _ =>
    dsimp only [State.setChan, State.crash]
    refine ⟨⟨?_, ?_⟩, ?_, ?_⟩ <;> grind -linarith

lemma Unharmed.step (hs : Unharmed isFromServerToClient s) (ht : Teardown s)
    (hg : Guarded isFromServerToClient s a) (h : Step isFromServerToClient s a s') :
    Unharmed isFromServerToClient s' := by
  cases h with
  | main h => exact hs.mainStep ht h
  | signal => exact ⟨⟨hs.portal, hs.chan⟩, hs.fault, hs.transfer⟩
  | portal h => exact hs.portalStep ht h
  | channel h => exact hs.channelStep ht h
  | dispose ha h =>
    have hreset := hg ha
    obtain ⟨⟨hportal, hchan⟩, hfault, htransfer⟩ := hs
    cases h <;>
    · dsimp only [State.setDisposer]
      refine ⟨⟨?_, ?_⟩, ?_, ?_⟩ <;> grind -linarith

/-- `transfer` is not used after its reset in a run whose steps are all guarded. -/
lemma Unharmed.of_reach
    (h : (machine isFromServerToClient).ReachIf (Guarded isFromServerToClient) s) :
    Unharmed isFromServerToClient s := by
  refine h.invariant ?_ fun s a s' hr hs hg hstep =>
    hs.step (Inv.of_reach hr).teardown hg (Step.of_step hstep).2
  rintro s rfl
  refine ⟨⟨?_, ?_⟩, ?_, ?_⟩ <;> simp [PortalPc.UsesTransfer, ChannelPc.UsesTransfer]

end ClientPortal

/-! ### Both sides -/

/-- A channel of the server has found that its client is not being disposed; then shutdown disposes
the client, and the channel goes on to `ASSERT(this->transfer != nullptr)`. -/
def lateReset : List ClientInstance.Action :=
  [.portal, .portalOp true, .portal, .portalOp true, .portal, .portalOp true, .openChannel 0,
    .channel 0, .channel 0, .channel 0, .channel 0, .channel 0, .channel 0, .sendRequest, .portal,
    .portalOp true, .create (.created .source), .initialise .ok, .portal, .portal, .portal,
    .portalOp true, .portal, .portal, .channel 0, .channel 0, .startDispose, .dispose, .dispose,
    .dispose, .dispose, .dispose, .dispose, .dispose, .dispose, .dispose, .channel 0]

/-- The same in the client: an upload is interrupted by a signal. -/
def lateSignal : List ClientPortal.Action :=
  [.init .connected, .portal, .portalOp true, .portal, .information 1, .portal, .portal, .portal,
    .connected 0 true, .portal, .portal, .portalOp true, .portal, .portalOp true, .portal, .portal,
    .portal, .channel 0, .channel 0, .signal, .main, .main, .dispose, .dispose, .dispose, .dispose,
    .dispose, .channel 0]

/-- A server is shut down while the threads of an instance and of its two channels wait for one
another: everything is reset, and then they leave. -/
def waitingReset : List ClientInstance.Action :=
  List.flatten [
    [.portal, .portalOp true, .portal, .portalOp true, .portal, .portalOp true, .openChannel 0,
      .openChannel 1],
    List.replicate 5 (.channel 0), List.replicate 4 (.channel 1),
    [.sendRequest, .portal, .portalOp true, .create (.created .source), .initialise .ok,
      .startDispose],
    List.replicate 9 .dispose, [.portal, .portal, .portal, .channel 1],
    List.replicate 3 .dispose, List.replicate 3 (.channel 0), List.replicate 3 (.channel 1),
    List.replicate 6 .dispose]

/-- The same in the client: an upload is interrupted by a signal while it waits for the response. -/
def waitingSignal : List ClientPortal.Action :=
  List.flatten [
    [.init .connected, .portal, .portalOp true, .portal, .information 2, .portal, .portal, .portal,
      .connected 0 true, .portal, .portal, .connected 1 true, .portal, .portal, .portalOp true,
      .portal, .signal, .main, .main],
    List.replicate 7 .dispose, [.portalOp false, .portal, .portal],
    List.replicate 3 (.channel 0), List.replicate 3 (.channel 1),
    List.replicate 7 .dispose, [.main, .main]]

/-- While a member is reset, the threads of the instance are before their look at
`is_dispose_required`. -/
def ClientInstance.Rests (s : ClientInstance.State) (a : ClientInstance.Action) : Prop :=
  (a ≠ .create .transferError ∧ a ≠ .initialise .transferError) ∧
    (a = .dispose → s.disposer = .resetSocket ∨ s.disposer = .resetTransfer →
      s.portal = .waitAll ∧ ∀ c ∈ s.opened, s.chan c = .signalAll ∨ s.chan c = .waitReady)

instance : ∀ s a, Decidable (ClientInstance.Rests s a) := fun s a => by
  unfold ClientInstance.Rests
  infer_instance

lemma ClientInstance.Rests.guarded {n : ℕ} {s : ClientInstance.State} {a : ClientInstance.Action}
    (hreach : (ClientInstance.machine n).Reach s) (h : ClientInstance.Rests s a) :
    ClientInstance.Guarded s a := by
  have hopened := (ClientInstance.Inv.of_reach hreach).channels.opened
  obtain ⟨⟨hcreate, hinitialise⟩, hdispose⟩ := h
  cases a with
  | dispose =>
    refine ⟨fun hd => ?_, fun hd => ?_⟩
    · rw [(hdispose rfl (.inl hd)).1]
      exact id
    · obtain ⟨hportal, hchan⟩ := hdispose rfl (.inr hd)
      refine ⟨by rw [hportal]; simp [ClientInstance.PortalPc.UsesTransfer], fun c => ?_⟩
      by_cases hc : s.chan c = .absent
      · rw [hc]
        exact id
      · rcases hchan c ((hopened c).mp hc) with h | h <;> rw [h] <;> exact id
  | create r =>
    cases r with
    | transferError => exact absurd rfl hcreate
    | created | exception => trivial
  | initialise r =>
    cases r with
    | transferError => exact absurd rfl hinitialise
    | ok | exception => trivial
  | _ => trivial

/-- While `transfer` is reset, the channels of an upload wait for the portal thread, and this one for
the response. -/
def ClientPortal.Rests (s : ClientPortal.State) (a : ClientPortal.Action) : Prop :=
  a = .dispose → s.disposer = .resetTransfer →
    s.portal = .inside .recvResponse ∧ ∀ c < s.total, s.chan c = .waitReady

instance : ∀ s a, Decidable (ClientPortal.Rests s a) := fun s a => by
  unfold ClientPortal.Rests
  infer_instance

lemma ClientPortal.Rests.guarded {isFromServerToClient : Bool} {s : ClientPortal.State}
    {a : ClientPortal.Action} (hreach : (ClientPortal.machine isFromServerToClient).Reach s)
    (h : ClientPortal.Rests s a) : ClientPortal.Guarded isFromServerToClient s a := by
  have htotal := (ClientPortal.Inv.of_reach hreach).threads.total
  intro ha hd
  obtain ⟨hportal, hchan⟩ := h ha hd
  refine ⟨by rw [hportal]; exact id, fun c => ?_⟩
  by_cases hc : s.chan c = .absent
  · rw [hc]
    exact id
  · rw [hchan c (htotal c hc)]
    exact id

lemma waitingReset_run :
    (((ClientInstance.machine 2).restrict ClientInstance.Rests).run (ClientInstance.start 2)
      waitingReset).map (fun s => (s.disposer, s.socket, s.transfer)) =
      some (.done, false, none) := by
  decide +kernel

lemma waitingSignal_run :
    (((ClientPortal.machine false).restrict ClientPortal.Rests).run {} waitingSignal).map
      (fun s => (s.disposer, s.transfer, s.main)) = some (.done, false, .done) := by
  decide +kernel

lemma lateReset_fault :
    ((ClientInstance.machine 1).run (ClientInstance.start 1) lateReset).map (·.fault) =
      some (some .nullTransfer) := by
  decide +kernel

lemma lateSignal_fault :
    ((ClientPortal.machine false).run {} lateSignal).map (·.fault) =
      some (some .nullTransfer) := by
  decide +kernel

end Xcp
