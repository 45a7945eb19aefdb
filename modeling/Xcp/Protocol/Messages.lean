import Xcp.Protocol.Link

/-!
# Messages and connections

How many messages each portal thread has sent and received, by where it is, and which channels each
process takes to be connected. What is in flight is what one thread has sent and the other has not
received.
-/

namespace Xcp

open ClientInstance (TransferKind)

open ClientPortal (kindOf)

namespace Protocol

/-! ### Messages in flight -/

section InFlight

variable {α : Type}

/-- Of the messages of `l`, `sent` have been sent and `received` of these have been received. -/
def inFlight (l : List α) (sent received : ℕ) : List α := (l.take sent).drop received

variable {l : List α} {i j : ℕ} {m : α}

lemma inFlight_send (h : l[i]? = some m) (hj : j ≤ i) :
    inFlight l i j ++ [m] = inFlight l (i + 1) j := by
  have hlt : i < l.length := (List.getElem?_eq_some_iff.mp h).1
  have hle : j ≤ (l.take i).length := by rw [List.length_take]; omega
  rw [inFlight, inFlight, List.take_add_one, h, Option.toList_some,
    List.drop_append_of_le_length hle]

lemma inFlight_receive [DecidableEq α] {q : List α} (h : dequeue (inFlight l i j) (some m) = some q) :
    j < i ∧ l[j]? = some m ∧ q = inFlight l i (j + 1) := by
  replace h : (if (inFlight l i j).head? = some m then some (inFlight l i j).tail else none) =
    some q := h
  split_ifs at h with hhead
  cases h
  have hget : (l.take i)[j]? = some m := by
    rw [← hhead, inFlight, List.head?_drop]
  obtain ⟨hlt, -⟩ := List.getElem?_eq_some_iff.mp hget
  have hji : j < i := by
    rw [List.length_take] at hlt
    omega
  refine ⟨hji, ?_, ?_⟩
  · rwa [List.getElem?_take_of_lt hji] at hget
  · rw [inFlight, inFlight, List.tail_drop]

/-- A message that has been sent and not received is at the head. -/
lemma dequeue_inFlight [DecidableEq α] (h : l[j]? = some m) (hji : j < i) :
    dequeue (inFlight l i j) (some m) = some (inFlight l i (j + 1)) := by
  have hhead : (inFlight l i j).head? = some m := by
    rw [inFlight, List.head?_drop, List.getElem?_take_of_lt hji, h]
  rw [dequeue, if_pos hhead, inFlight, List.tail_drop]
  rfl

end InFlight

/-- What a client sends. -/
def clientMessages : List ClientMessage := [.versions, .request]

/-- What an instance with `n` channels sends. -/
def serverMessages (n : ℕ) : List ServerMessage := [.version, .information n, .response]

lemma clientMessages_eq_some {i : ℕ} {m : ClientMessage} (h : clientMessages[i]? = some m) :
    m = .versions ∧ i = 0 ∨ m = .request ∧ i = 1 := by
  match i, h with
  | 0, h => exact .inl ⟨(Option.some.inj h).symm, rfl⟩
  | 1, h => exact .inr ⟨(Option.some.inj h).symm, rfl⟩
  | i + 2, h => simp [clientMessages] at h

lemma serverMessages_eq_some {n i : ℕ} {m : ServerMessage} (h : (serverMessages n)[i]? = some m) :
    m = .version ∧ i = 0 ∨ m = .information n ∧ i = 1 ∨ m = .response ∧ i = 2 := by
  match i, h with
  | 0, h => exact .inl ⟨(Option.some.inj h).symm, rfl⟩
  | 1, h => exact .inr (.inl ⟨(Option.some.inj h).symm, rfl⟩)
  | 2, h => exact .inr (.inr ⟨(Option.some.inj h).symm, rfl⟩)
  | i + 3, h => simp [serverMessages] at h

end Protocol

open Protocol

/-! ### The client -/

namespace ClientPortal

/-- The messages that the portal thread has sent. -/
def PortalPc.sent : PortalPc → ℕ
  | .absent => 0
  | .use .recvVersion | .inside .recvVersion | .use .recvInformation | .inside .recvInformation
  | .creating _ | .adding _ | .buildRequest | .use .sendRequest | .inside .sendRequest => 1
  | _ => 2

/-- The messages that the portal thread has received. -/
def PortalPc.received : PortalPc → ℕ
  | .absent | .use .recvVersion | .inside .recvVersion => 0
  | .use .recvInformation | .inside .recvInformation => 1
  | .creating _ | .adding _ | .buildRequest | .use .sendRequest | .inside .sendRequest
  | .use .recvResponse | .inside .recvResponse => 2
  | _ => 3

/-- The channel is connected to the server. -/
def ChannelPc.Connected : ChannelPc → Prop
  | .absent | .connecting => False
  | _ => True

attribute [grind =] PortalPc.sent PortalPc.received ChannelPc.Connected

variable {isFromServerToClient : Bool} {s s' : State} {a : Action}

/-- The portal thread is elsewhere, and has sent and received no less. -/
structure Quiet (s s' : State) : Prop where
  sent : s'.portal.sent = s.portal.sent
  received : s'.portal.received = s.portal.received
  total : s'.total = s.total
  connected : ∀ c, (s'.chan c).Connected ↔ (s.chan c).Connected

lemma Quiet.portalStep (hs : Ready isFromServerToClient s) (hruns : s.portal.Runs)
    (h : PortalStep isFromServerToClient s s') : Quiet s s' := by
  have hrefused := hs.order.inv.teardown.refused
  cases h with
  | opFailed hpc | information hpc | recvVersion hpc | sendRequest hpc | recvResponse hpc
  | initInfo hpc | exchange hpc =>
    rw [hpc] at hruns
    exact hruns.elim
  | refuse hpc hrundown =>
    have hd : s.disposer ≠ .idle := fun hd => by
      have hstage := hs.order.inv.teardown.rundown.mp hrundown
      rw [hd] at hstage
      exact absurd hstage (by decide)
    have hphase := hs.portal_behind hd
    rw [hpc] at hphase
    cases hphase
  | refused hpc => exact absurd hpc (hrefused _).1
  | joined hpc => exact absurd hpc (hrefused _).2
  | @create k hpc hk =>
    have hchan := hs.order.inv.threads.absent hpc
    refine ⟨by simp [State.setPortal, hpc, PortalPc.sent],
      by simp [State.setPortal, hpc, PortalPc.received], rfl, fun c => ?_⟩
    dsimp only [State.setPortal, State.setChan]
    grind -linarith
  | exit hpc =>
    rw [startDispose_eq]
    exact ⟨by simp [State.setPortal, hpc, PortalPc.sent],
      by simp [State.setPortal, hpc, PortalPc.received], rfl, fun _ => Iff.rfl⟩
  | created hpc | signalReady hpc | invoke hpc =>
    refine ⟨?_, ?_, rfl, fun _ => Iff.rfl⟩ <;> dsimp only [State.setPortal] <;> rw [hpc] <;>
      split_ifs <;> rfl
  | @use op hpc =>
    cases op <;> exact ⟨by simp [State.setPortal, hpc, PortalPc.sent],
      by simp [State.setPortal, hpc, PortalPc.received], rfl, fun _ => Iff.rfl⟩
  | useNull | transferNull | signalCount | invokeNullSocket =>
    exact ⟨rfl, rfl, rfl, fun _ => Iff.rfl⟩
  | add hpc | buildRequest hpc | setCallback hpc | setReady hpc | assertTransfer hpc
  | waitFinished hpc | storeFailed hpc | storeSucceeded hpc | storeNothing hpc | requireExit hpc =>
    exact ⟨by simp [State.setPortal, hpc, PortalPc.sent],
      by simp [State.setPortal, hpc, PortalPc.received], rfl, fun _ => Iff.rfl⟩

lemma Quiet.channelStep {c : ℕ} (hruns : (s.chan c).Runs)
    (h : ChannelStep isFromServerToClient s c s') : Quiet s s' := by
  cases h with
  | @exit success =>
    rw [startDispose_eq]
    refine ⟨by cases success <;> rfl, by cases success <;> rfl, by cases success <;> rfl,
      fun i => ?_⟩
    dsimp only [State.setChan]
    grind -linarith
  | transferNull => exact ⟨rfl, rfl, rfl, fun _ => Iff.rfl⟩
  | connected hpc | notConnected hpc | transferred hpc =>
    rw [hpc] at hruns
    exact hruns.elim
  | _ =>
    refine ⟨rfl, rfl, rfl, fun i => ?_⟩
    dsimp only [State.setChan]
    grind -linarith

/-- What a step of an orderly client means for its messages and channels. -/
structure Exchanged (s : State) (a : Action) (s' : State) : Prop where
  sent : s'.portal.sent = s.portal.sent + (clientSends s a).toList.length
  received : s'.portal.received = s.portal.received + (clientReceives s a).toList.length
  sends : ∀ m, clientSends s a = some m → clientMessages[s.portal.sent]? = some m
  total : s'.total = match clientReceives s a with
    | some (.information total) => total
    | _ => s.total
  connected : ∀ c, (s'.chan c).Connected ↔ (s.chan c).Connected ∨ a = .connected c true

lemma Quiet.exchanged (h : Quiet s s') (hsends : clientSends s a = none)
    (hreceives : clientReceives s a = none) (hconnected : ∀ c, a ≠ .connected c true) :
    Exchanged s a s' where
  sent := by rw [hsends]; exact h.sent
  received := by rw [hreceives]; exact h.received
  sends := by rw [hsends]; exact nofun
  total := by rw [hreceives]; exact h.total
  connected c := by rw [h.connected c, or_iff_left (hconnected c)]

lemma Quiet.of_eq (hportal : s'.portal = s.portal) (htotal : s'.total = s.total)
    (hchan : s'.chan = s.chan) : Quiet s s' where
  sent := by rw [hportal]
  received := by rw [hportal]
  total := htotal
  connected c := by rw [hchan]

lemma Exchanged.portalOp (h : s.portalOp isFromServerToClient true = some s') :
    Exchanged s (.portalOp true) s' := by
  unfold State.portalOp at h
  split at h
  · next op hpc =>
    by_cases hopen : s.socketOpen = true
    swap
    · rw [if_pos rfl, if_neg hopen] at h
      cases h
    rw [if_pos rfl, if_pos hopen] at h
    cases op with
    | recvVersion | sendRequest =>
      cases h
      refine ⟨?_, ?_, ?_, ?_, fun c => (or_iff_left nofun).symm⟩ <;>
        simp [State.setPortal, hpc, PortalPc.sent, PortalPc.received, clientSends, clientReceives,
          clientMessages]
    | recvInformation => cases h
    | recvResponse =>
      cases h
      refine ⟨?_, ?_, ?_, ?_, fun c => (or_iff_left nofun).symm⟩ <;>
        simp only [State.setPortal, hpc, clientSends, clientReceives] <;>
        cases isFromServerToClient <;> simp [PortalPc.sent, PortalPc.received]
  · next hpc =>
    split_ifs at h
    cases h
    refine ⟨?_, ?_, ?_, ?_, fun c => (or_iff_left nofun).symm⟩ <;>
      simp [State.setPortal, hpc, PortalPc.sent, PortalPc.received, clientSends, clientReceives]
  · cases h

lemma Exchanged.of_step (hs : Ready isFromServerToClient s) (hfault : s'.fault = none)
    (ha : Orderly s a) (h : s.step isFromServerToClient a = some s') : Exchanged s a s' := by
  unfold State.step at h
  rw [if_neg (not_not.mpr hs.order.fault)] at h
  cases a with
  | init r =>
    obtain rfl : r = .connected := ha
    replace h : s.init .connected = some s' := h
    unfold State.init at h
    split_ifs at h with hpc
    cases h
    have habsent := (hs.order.inv.teardown.init hpc).2
    refine ⟨?_, ?_, ?_, rfl, fun c => (or_iff_left (by simp)).symm⟩ <;>
      simp [State.setMain, habsent, PortalPc.sent, PortalPc.received, clientSends, clientReceives,
        clientMessages]
  | main =>
    replace h : s.mainStep = some s' := h
    have hquiet : Quiet s s' := by
      cases MainStep.of_mainStep h with
      | noTransfer hpc | notConnected hpc | connected hpc =>
        rw [State.mainStep, hpc] at h
        cases h
      | dispose =>
        rw [startDispose_eq]
        exact .of_eq rfl rfl rfl
      | waitExit | waitDispose | read => exact .of_eq rfl rfl rfl
    exact hquiet.exchanged rfl rfl (by simp)
  | signal => exact ha.elim
  | portal =>
    replace h : s.portalStep isFromServerToClient = some s' := h
    have hruns := portal_runs (Option.isSome_of_eq_some h)
    exact (Quiet.portalStep hs hruns (.of_portalStep h)).exchanged rfl rfl (by simp)
  | information total =>
    replace h : s.information total = some s' := h
    unfold State.information at h
    split_ifs at h with hpc
    cases h
    refine ⟨?_, ?_, by simp [clientSends], rfl, fun c => (or_iff_left (by simp)).symm⟩ <;>
      simp [State.setPortal, hpc.1, PortalPc.sent, PortalPc.received, clientSends, clientReceives]
  | portalOp ok =>
    obtain ⟨rfl, -⟩ := ha
    exact .portalOp h
  | initInfo ok =>
    obtain rfl : ok = true := ha
    replace h : s.initInfo true = some s' := h
    unfold State.initInfo at h
    rw [if_pos rfl] at h
    split_ifs at h with hpc htransfer htotal
    · cases h
      refine Quiet.exchanged ⟨?_, ?_, rfl, fun _ => Iff.rfl⟩ rfl rfl (by simp) <;>
        simp [State.setPortal, hpc, PortalPc.sent, PortalPc.received]
    · cases h
      cases hfault
    · cases h
      cases hfault
  | channel c =>
    replace h : s.channelStep c = some s' := h
    have hruns := channel_runs (Option.isSome_of_eq_some h)
    have hstep : ChannelStep isFromServerToClient s c s' := .of_channelStep h
    exact (Quiet.channelStep hruns hstep).exchanged rfl rfl (by simp)
  | connected c ok =>
    obtain rfl : ok = true := ha
    replace h : s.connected c true = some s' := h
    by_cases hpc : s.chan c = .connecting
    · rw [State.connected, if_pos hpc] at h
      cases h
      refine ⟨rfl, rfl, by simp [clientSends], rfl, fun i => ?_⟩
      dsimp only [State.setChan]
      grind -linarith
    · rw [State.connected, if_neg hpc] at h
      cases h
  | transferred c result =>
    obtain rfl : result = true := ha
    replace h : s.transferred isFromServerToClient c true = some s' := h
    by_cases hpc : s.chan c = .transferring ∧ (true = true → s.chanOpen c = true)
    swap
    · rw [State.transferred, if_neg hpc] at h
      cases h
    rw [State.transferred, if_pos hpc] at h
    cases h
    refine Quiet.exchanged ⟨rfl, rfl, rfl, fun i => ?_⟩ rfl rfl (by simp)
    dsimp only [State.setChan]
    grind -linarith
  | dispose =>
    have hquiet : Quiet s s' := by
      cases DisposeStep.of_disposeStep h <;> exact .of_eq rfl rfl rfl
    exact hquiet.exchanged rfl rfl (by simp)

end ClientPortal

/-! ### The server -/

namespace ClientInstance

/-- The messages that the portal thread has sent. -/
def PortalPc.sent : PortalPc → ℕ
  | .use .recvVersion | .inside .recvVersion | .use .sendVersion | .inside .sendVersion => 0
  | .use .sendInformation | .inside .sendInformation => 1
  | .use .recvRequest | .inside .recvRequest | .create | .created | .waitAll | .check
  | .use .sendResponse | .inside .sendResponse => 2
  | _ => 3

/-- The messages that the portal thread has received. -/
def PortalPc.received : PortalPc → ℕ
  | .use .recvVersion | .inside .recvVersion => 0
  | .use .sendVersion | .inside .sendVersion | .use .sendInformation | .inside .sendInformation
  | .use .recvRequest | .inside .recvRequest => 1
  | _ => 2

attribute [grind =] PortalPc.sent PortalPc.received

variable {n : ℕ} {kind : TransferKind} {s s' : State} {a : Action}

/-- The portal thread is elsewhere, and has sent and received no less. -/
structure Quiet (s s' : State) : Prop where
  sent : s'.portal.sent = s.portal.sent
  received : s'.portal.received = s.portal.received
  request : s'.requestSent = s.requestSent
  absent : ∀ c, s'.chan c = .absent ↔ s.chan c = .absent

lemma Quiet.portalStep (hs : InOrder n kind s) (hruns : s.portal.Runs) (h : PortalStep n s s') :
    Quiet s s' := by
  have hanswers := hs.course.answers.1
  cases h with
  | opDone hpc | opFailed hpc | create hpc | createError hpc | createException hpc
  | createdNull hpc | createdSource hpc | createdDestination hpc | exchange hpc =>
    rw [hpc] at hruns
    exact hruns.elim
  | useNull | invokeNull | invokeNullSocket => exact ⟨rfl, rfl, rfl, fun _ => Iff.rfl⟩
  | checkDisposed hpc hd =>
    have hphase := hs.portal_behind hd
    simp [State.side, hpc, PortalPc.phase] at hphase
  | @use op hpc =>
    cases op with
    | sendErrorResponse => exact absurd hpc hanswers
    | _ =>
      exact ⟨by simp [State.setPortal, hpc, PortalPc.sent],
        by simp [State.setPortal, hpc, PortalPc.received], rfl, fun _ => Iff.rfl⟩
  | signalReady hpc =>
    refine ⟨?_, ?_, rfl, fun _ => Iff.rfl⟩ <;> dsimp only [State.setPortal] <;> rw [hpc] <;>
      split_ifs <;> rfl
  | exit hpc =>
    rw [startDispose_eq]
    exact ⟨by simp [State.setPortal, hpc, PortalPc.sent],
      by simp [State.setPortal, hpc, PortalPc.received], rfl, fun _ => Iff.rfl⟩
  | waitAll hpc | checkNormal hpc | setReady hpc | invokeSource hpc | invokeDestination hpc
  | waitFinished hpc =>
    exact ⟨by simp [State.setPortal, hpc, PortalPc.sent],
      by simp [State.setPortal, hpc, PortalPc.received], rfl, fun _ => Iff.rfl⟩

lemma Quiet.channelStep {c : ℕ} (h : ChannelStep s c s') : Quiet s s' := by
  cases h with
  | @exit result =>
    rw [startDispose_eq]
    refine ⟨by cases result <;> rfl, by cases result <;> rfl, by cases result <;> rfl,
      fun i => ?_⟩
    dsimp only [State.setChan]
    grind -linarith
  | assertNull | invokeNull => exact ⟨rfl, rfl, rfl, fun _ => Iff.rfl⟩
  | _ =>
    refine ⟨rfl, rfl, rfl, fun i => ?_⟩
    dsimp only [State.setChan]
    grind -linarith

/-- What a step of an orderly instance means for its messages and channels. -/
structure Exchanged (n : ℕ) (s : State) (a : Action) (s' : State) : Prop where
  sent : s'.portal.sent = s.portal.sent + (serverSends n s a).toList.length
  received : s'.portal.received = s.portal.received + (serverReceives s a).toList.length
  sends : ∀ m, serverSends n s a = some m → (serverMessages n)[s.portal.sent]? = some m
  request : s'.requestSent = (s.requestSent || decide (a = .sendRequest))
  absent : ∀ c, s'.chan c = .absent ↔ s.chan c = .absent ∧ a ≠ .openChannel c

lemma Quiet.exchanged (h : Quiet s s') (hsends : serverSends n s a = none)
    (hreceives : serverReceives s a = none) (hrequest : a ≠ .sendRequest)
    (hopen : ∀ c, a ≠ .openChannel c) : Exchanged n s a s' where
  sent := by rw [hsends]; exact h.sent
  received := by rw [hreceives]; exact h.received
  sends := by rw [hsends]; exact nofun
  request := by rw [h.request]; simp [hrequest]
  absent c := by rw [h.absent c, and_iff_left (hopen c)]

lemma Exchanged.portalOp (hs : InOrder n kind s) (h : s.portalOp true = some s') :
    Exchanged n s (.portalOp true) s' := by
  have hanswers := hs.course.answers.2
  unfold State.portalOp at h
  split at h
  · next op hpc =>
    rw [if_pos rfl] at h
    split_ifs at h
    cases h
    cases op with
    | sendErrorResponse => exact absurd hpc hanswers
    | _ =>
      refine ⟨?_, ?_, ?_, by simp [State.setPortal], fun c => (and_iff_left nofun).symm⟩ <;>
        simp [State.setPortal, hpc, PortalPc.sent, PortalPc.received, serverSends, serverReceives,
          SocketOp.next, serverMessages]
  · next hpc =>
    split_ifs at h
    cases h
    refine ⟨?_, ?_, ?_, by simp [State.setPortal], fun c => (and_iff_left nofun).symm⟩ <;>
      simp [State.setPortal, hpc, PortalPc.sent, PortalPc.received, serverSends, serverReceives]
  · cases h

lemma Exchanged.of_step (hs : InOrder n kind s) (ha : Orderly n kind s a)
    (h : s.step n a = some s') : Exchanged n s a s' := by
  unfold State.step at h
  rw [if_neg (not_not.mpr hs.fault)] at h
  cases a with
  | portal =>
    replace h : s.portalStep = some s' := h
    have hruns := portal_runs (Option.isSome_of_eq_some h)
    exact (Quiet.portalStep hs hruns (.of_portalStep h)).exchanged rfl rfl (by simp) (by simp)
  | portalOp ok =>
    obtain ⟨rfl, -⟩ := ha
    exact .portalOp hs h
  | create r =>
    obtain rfl : r = .created kind := ha
    replace h : s.create (.created kind) = some s' := h
    cases hpc : s.portal with
    | create =>
      simp only [State.create, hpc, Option.some.injEq] at h
      subst h
      refine Quiet.exchanged ⟨?_, ?_, rfl, fun _ => Iff.rfl⟩ rfl rfl (by simp) (by simp) <;>
        simp [State.setPortal, hpc, PortalPc.sent, PortalPc.received]
    | _ => simp [State.create, hpc] at h
  | initialise r =>
    obtain rfl : r = .ok := ha
    replace h : s.initialise n .ok = some s' := h
    unfold State.initialise at h
    split at h
    · next hpc =>
      rw [hs.transfer_eq (.inl hpc)] at h
      cases kind <;> cases h <;> refine Quiet.exchanged ⟨?_, ?_, rfl, fun _ => Iff.rfl⟩
        rfl rfl (by simp) (by simp) <;> simp [State.setPortal, hpc, PortalPc.sent, PortalPc.received]
    · cases h
  | channel c =>
    replace h : s.channelStep c = some s' := h
    exact (Quiet.channelStep (.of_channelStep h)).exchanged rfl rfl (by simp) (by simp)
  | transferred c result =>
    exact (Quiet.channelStep (.of_transferred h)).exchanged rfl rfl (by simp) (by simp)
  | startDispose | loseChannel | close => exact ha.elim
  | dispose =>
    have hquiet : Quiet s s' := by
      cases DisposeStep.of_disposeStep h <;> exact ⟨rfl, rfl, rfl, fun _ => Iff.rfl⟩
    exact hquiet.exchanged rfl rfl (by simp) (by simp)
  | openChannel c =>
    simp only [State.clientStep] at h
    split_ifs at h with hopen
    cases h
    refine ⟨rfl, rfl, by simp [serverSends], by simp [State.setChan], fun i => ?_⟩
    dsimp only [State.setChan]
    grind -linarith
  | sendRequest =>
    simp only [State.clientStep] at h
    split_ifs at h
    cases h
    exact ⟨rfl, rfl, by simp [serverSends], by simp, fun c => (and_iff_left (by simp)).symm⟩

end ClientInstance

end Xcp
