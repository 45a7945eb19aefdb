import Xcp.Protocol.V1

/-!
# The transfers and their processes

While nothing has failed, a transfer is where its process takes it to be: its channels are in their
loops while the threads are, its portal has come as far as the portal thread, its gate is the gate
that the process keeps beside it, and its files are closed when the process closes them. A move of
the process keeps this, and so does a step of the transfer.
-/

namespace Xcp

open ClientInstance (TransferKind)

namespace Protocol

variable {F N : ℕ} {cfg : Session.Config F N} {t t' : Session.State F N} {v v' w w' : Side}
  {call : Call}

/-- The portal thread is behind `invoke_portal` once something of the process has been closed. -/
def Side.Settled (v : Side) : Prop :=
  v.disposal ≠ .before ∨ v.portalOpen = false ∨ (∃ c, v.chanOpen c = false) → v.portal = .behind

/-- The source is where its process takes it to be. -/
structure SourceLink (v : Side) (t : Session.State F N) : Prop where
  range : ∀ c, v.phase c ≠ .before → c < N
  phase : ∀ c, v.phase c ≠ .signalling ∧ v.phase c ≠ .setting
  loop : ∀ c : Fin N, v.phase c ≠ .behind → ∀ r, t.source.chan c ≠ .returned r
  left : ∀ c : Fin N, v.phase c = .behind → t.source.chan c = .returned true
  waiting : v.portal ≠ .waiting
  portal : t.sourcePortal = if v.portal = .behind then .returned true else .recv
  setting : v.disposal ≠ .setting
  idle : v.disposal = .before → t.source.disposer = .idle
  done : v.disposal = .behind → t.source.disposer = .done
  settled : v.Settled

/-- Where the portal of a destination is, by the phase of the portal thread. -/
def PortalPhase.destinationPortal : PortalPhase → Session.DestinationPortal
  | .before | .waiting => .wait
  | .exchanging => .send
  | .behind => .returned true

/-- Where the channel of a destination is, by the phase of its thread. -/
def Phase.Channel (pc : Destination.Pc F) : Phase → Prop
  | .before | .inside => Session.InLoop pc
  | .signalling => pc = .exit true
  | .setting => pc = .setEvent true
  | .behind => pc = .returned true

/-- How far the files of a destination are closed. -/
def Disposal.Destination (d : Destination.Disposer) : Disposal → Prop
  | .before => d = .idle
  | .closing => d ≠ .setEvent ∧ d ≠ .done
  | .setting => d = .setEvent
  | .behind => d = .done

/-- The gate of a destination: its process has not set it up, or keeps the same. -/
def GateLink (v : Side) (t : Session.State F N) : Prop :=
  v.gate = {} ∧ t.destination.gateAllChannelsFinished = { atLeastSignal := N } ∧
      (∀ c, v.phase c = .before) ∨
    v.gate.atLeastSignal = N ∧ t.destination.gateAllChannelsFinished = v.gate

/-- The destination is where its process takes it to be. -/
structure DestinationLink (v : Side) (t : Session.State F N) : Prop where
  range : ∀ c, v.phase c ≠ .before → c < N
  chan : ∀ c : Fin N, (v.phase c).Channel (t.destination.chan c)
  portal : t.destinationPortal = v.portal.destinationPortal
  gate : GateLink v t
  portalOpen : t.portalOpen = v.portalOpen
  disposal : v.disposal.Destination t.destination.disposer
  settled : v.Settled

/-- Both transfers are where their processes take them to be. -/
structure Linked (cfg : Session.Config F N) (t : Session.State F N) (v w : Side) : Prop where
  reach : (Session.machine cfg).ReachIf Session.Smooth t
  source : SourceLink v t
  destination : DestinationLink w t

/-! ### A transfer that does not move -/

lemma SourceLink.congr (h : SourceLink v t) (hsource : t'.source = t.source)
    (hportal : t'.sourcePortal = t.sourcePortal) : SourceLink v t' where
  range := h.range
  phase := h.phase
  loop := by rw [hsource]; exact h.loop
  left := by rw [hsource]; exact h.left
  waiting := h.waiting
  portal := by rw [hportal]; exact h.portal
  setting := h.setting
  idle := by rw [hsource]; exact h.idle
  done := by rw [hsource]; exact h.done
  settled := h.settled

lemma DestinationLink.congr (h : DestinationLink v t) (hdestination : t'.destination = t.destination)
    (hportal : t'.destinationPortal = t.destinationPortal) (hopen : t'.portalOpen = t.portalOpen) :
    DestinationLink v t' where
  range := h.range
  chan := by rw [hdestination]; exact h.chan
  portal := by rw [hportal]; exact h.portal
  gate := by unfold GateLink; rw [hdestination]; exact h.gate
  portalOpen := by rw [hopen]; exact h.portalOpen
  disposal := by rw [hdestination]; exact h.disposal
  settled := h.settled

/-! ### What follows from the links -/

lemma Linked.inOrder (h : Linked cfg t v w) : Session.InOrder cfg t := .of_reach h.reach

/-- Once the portal of the destination is about to report, all channels have returned. -/
lemma Linked.returned_of_report (h : Linked cfg t v w) (hportal : t.destinationPortal ≠ .wait) :
    (∀ c, t.source.chan c = .returned true) ∧ ∀ c, t.destination.chan c = .returned true := by
  have hall := h.inOrder.returned hportal
  exact ⟨(h.inOrder.copied hall).1, hall⟩

/-- The destination has reported once the portal of either process is behind its exchange. -/
lemma Linked.reported (h : Linked cfg t v w) (hportal : v.portal = .behind ∨ w.portal = .behind) :
    t.destinationPortal = .returned true := by
  rcases hportal with hv | hw
  · exact h.inOrder.portals.sent (.inr (by rw [h.source.portal, if_pos hv]))
  · rw [h.destination.portal, hw]
    rfl

/-- Then all channels have returned. -/
lemma Linked.returned (h : Linked cfg t v w) (hportal : v.portal = .behind ∨ w.portal = .behind) :
    (∀ c, t.source.chan c = .returned true) ∧ ∀ c, t.destination.chan c = .returned true :=
  h.returned_of_report (by rw [h.reported hportal]; nofun)

/-- Then the threads of the source are behind `invoke_channel`. -/
lemma Linked.source_behind (h : Linked cfg t v w) {c : ℕ} (hc : c < N)
    (hreturned : ∀ c, t.source.chan c = .returned true) : v.phase c = .behind := by
  by_contra hne
  exact h.source.loop ⟨c, hc⟩ hne true (hreturned _)

/-- Then the threads of the destination are behind `invoke_channel`. -/
lemma Linked.destination_behind (h : Linked cfg t v w) {c : ℕ} (hc : c < N)
    (hreturned : ∀ c, t.destination.chan c = .returned true) : w.phase c = .behind := by
  have hchan := h.destination.chan ⟨c, hc⟩
  rw [hreturned] at hchan
  cases hphase : w.phase c with
  | behind => rfl
  | before | inside =>
    simp only [hphase, Phase.Channel] at hchan
    exact absurd rfl (hchan true).2.2
  | signalling | setting =>
    simp only [hphase, Phase.Channel] at hchan
    cases hchan

/-- A thread that is in its loop finds the sockets of its process and of the other open. -/
lemma Linked.inside_open (h : Linked cfg t v w) {c : ℕ} (hc : c < N)
    (hinside : v.phase c ≠ .behind ∨ w.phase c ≠ .behind) :
    v.portal ≠ .behind ∧ w.portal ≠ .behind := by
  constructor
  · intro hv
    obtain ⟨hsource, hdestination⟩ := h.returned (.inl hv)
    exact hinside.elim (fun hne => hne (h.source_behind hc hsource))
      fun hne => hne (h.destination_behind hc hdestination)
  · intro hw
    obtain ⟨hsource, hdestination⟩ := h.returned (.inr hw)
    exact hinside.elim (fun hne => hne (h.source_behind hc hsource))
      fun hne => hne (h.destination_behind hc hdestination)

lemma Side.Settled.chanOpen (h : v.Settled) (hportal : v.portal ≠ .behind) (c : ℕ) :
    v.chanOpen c = true := by
  by_contra hopen
  exact hportal (h (.inr (.inr ⟨c, by simpa using hopen⟩)))

lemma Side.Settled.portalOpen (h : v.Settled) (hportal : v.portal ≠ .behind) :
    v.portalOpen = true := by
  by_contra hopen
  exact hportal (h (.inr (.inl (by simpa using hopen))))

lemma Side.Settled.before (h : v.Settled) (hportal : v.portal ≠ .behind) :
    v.disposal = .before := by
  by_contra hd
  exact hportal (h (.inl hd))

lemma cut_eq_false {ownOpen peerOpen pending : Bool} (hown : ownOpen = true)
    (hpeer : peerOpen = false → pending = true) : cut ownOpen peerOpen pending = false := by
  cases peerOpen with
  | true => simp [cut, hown]
  | false => simp [cut, hown, hpeer rfl]

/-- The last exchange of the destination does not fail. -/
lemma Linked.not_exchangeFails_destination (h : Linked cfg t v w) (hpc : w.portal = .exchanging) :
    exchangeFails t w.portalOpen v.portalOpen .destination = false := by
  have hsend : t.destinationPortal = .send := by rw [h.destination.portal, hpc]; rfl
  have hv : v.portal ≠ .behind := fun hv =>
    absurd (hsend.symm.trans (h.reported (.inl hv))) nofun
  refine cut_eq_false (h.destination.settled.portalOpen (by rw [hpc]; nofun)) fun hclosed => ?_
  rw [h.source.settled.portalOpen hv] at hclosed
  cases hclosed

/-- The last exchange of the source does not fail. -/
lemma Linked.not_exchangeFails_source (h : Linked cfg t v w) (hpc : v.portal = .exchanging) :
    exchangeFails t v.portalOpen w.portalOpen .source = false := by
  have hrecv : t.sourcePortal = .recv := by rw [h.source.portal, if_neg (by rw [hpc]; nofun)]
  have hwire := h.inOrder.reports.portalWire
  have herror : reportsError t = false := by
    rw [reportsError, hwire]
    split_ifs <;> rfl
  have hcut : cut v.portalOpen w.portalOpen (!t.portalWire.isEmpty) = false := by
    refine cut_eq_false (h.source.settled.portalOpen (by rw [hpc]; nofun)) fun hclosed => ?_
    have hreported := h.reported (.inr (h.destination.settled (.inr (.inl hclosed))))
    rw [hwire, if_pos ⟨hreported, hrecv⟩]
    rfl
  rw [exchangeFails, herror, hcut]
  rfl

/-! ### Moves of the process that sends -/

lemma Side.setPhase_range {c : ℕ} {p : Phase} (hc : c < N)
    (h : ∀ i, v.phase i ≠ .before → i < N) (i : ℕ) (hi : (v.setPhase c p).phase i ≠ .before) :
    i < N := by
  by_cases hic : i = c
  · exact hic ▸ hc
  · refine h i fun hbefore => hi ?_
    rw [← hbefore]
    exact Function.update_of_ne hic _ _

/-- A move of the source's process that does not touch its transfer. -/
lemma SourceLink.move (h : SourceLink v t) (hm : Move N v .source .none v') : SourceLink v' t := by
  obtain ⟨hrange, hphase, hloop, hleft, hwaiting, hportal, hsetting, hidle, hdone, hsettled⟩ := h
  cases hm with
  | stay => exact ⟨hrange, hphase, hloop, hleft, hwaiting, hportal, hsetting, hidle, hdone, hsettled⟩
  | @enter _ c hc hpc =>
    have hother : ∀ i, (v.setPhase c .inside).phase i = if i = c then .inside else v.phase i :=
      fun i => Function.update_apply _ _ _ _
    refine ⟨Side.setPhase_range hc hrange, fun i => ?_, fun i hi => ?_, fun i hi => ?_, hwaiting,
      hportal, hsetting, hidle, hdone, hsettled⟩
    · rw [hother]
      split_ifs
      · exact ⟨nofun, nofun⟩
      · exact hphase i
    · refine hloop i fun hbehind => hi ?_
      rw [hother, if_neg ?_]
      · exact hbehind
      · rintro rfl
        exact absurd (hpc.symm.trans hbehind) nofun
    · rw [hother] at hi
      split_ifs at hi
      exact hleft i hi
  | invoke hpc =>
    have hrecv : t.sourcePortal = .recv := by rw [hportal, hpc, if_neg nofun]
    refine ⟨hrange, hphase, hloop, hleft, nofun, ?_, hsetting, hidle, hdone, fun hclosed => ?_⟩
    · rw [hrecv, if_neg nofun]
    · exact absurd (hpc.symm.trans (hsettled hclosed)) nofun
  | closeChannel hpc =>
    exact ⟨hrange, hphase, hloop, hleft, hwaiting, hportal, hsetting, hidle, hdone, fun _ => hpc⟩
  | close hpc hopen hd =>
    exact ⟨hrange, hphase, hloop, hleft, hwaiting, hportal, nofun, nofun, nofun, fun _ => hpc⟩

/-- The source receives the report. -/
lemma sourcePortal_exchange (hsync : sync cfg t .source (.exchange true) = some t') :
    t'.source = t.source ∧ t'.sourcePortal = .returned true ∧ t'.destination = t.destination ∧
      t'.destinationPortal = t.destinationPortal ∧ t'.portalOpen = t.portalOpen ∧
      t.portalWire ≠ [] ∧ t.step cfg .recvFinished = some t' := by
  simp only [sync] at hsync
  split_ifs at hsync with herror
  cases Session.Step.of_step hsync with
  | @recvFinished msg msgs hpc hwire =>
    have hcode : msg.errorCode = 0 := by
      simpa [reportsError, hwire] using herror
    exact ⟨rfl, by simp [hcode], rfl, rfl, rfl, by simp [hwire], hsync⟩

/-- A move of the source's process keeps the links. -/
lemma Linked.moveSource (h : Linked cfg t v w) (hm : Move N v .source call v')
    (hcall : ∀ c r, call ≠ .leave c r) (hsync : sync cfg t .source call = some t') :
    Linked cfg t' v' w := by
  obtain ⟨hreach, hsource, hdestination⟩ := h
  cases hm with
  | stay | enter | invoke | closeChannel | close =>
    cases hsync
    exact ⟨hreach, hsource.move (by constructor <;> assumption), hdestination⟩
  | exchange hpc =>
    obtain ⟨hs, hsp, hd, hdp, hopen, -, hstep⟩ := sourcePortal_exchange hsync
    have hsmooth : Session.Smooth t .recvFinished := ⟨trivial, nofun, nofun⟩
    refine ⟨.step hreach hsmooth hstep, ?_, hdestination.congr hd hdp hopen⟩
    refine ⟨hsource.range, hsource.phase, by rw [hs]; exact hsource.loop,
      by rw [hs]; exact hsource.left, nofun, by rw [hsp, if_pos rfl], hsource.setting,
      by rw [hs]; exact hsource.idle, by rw [hs]; exact hsource.done, fun _ => rfl⟩
  | leaveSource => exact absurd rfl (hcall _ _)
  | closePortal hpc =>
    cases hsync
    exact ⟨hreach, ⟨hsource.range, hsource.phase, hsource.loop, hsource.left, hsource.waiting,
      hsource.portal, hsource.setting, hsource.idle, hsource.done, fun _ => hpc⟩, hdestination⟩
  | release hd =>
    simp only [sync] at hsync
    split_ifs at hsync with hdone
    cases hsync
    have hbehind := hsource.settled (.inl (by rw [hd]; nofun))
    exact ⟨hreach, ⟨hsource.range, hsource.phase, hsource.loop, hsource.left, hsource.waiting,
      hsource.portal, nofun, nofun, fun _ => hdone, fun _ => hbehind⟩, hdestination⟩

/-! ### Moves of the process that receives -/

/-- One channel of a destination moves on, together with its thread. -/
lemma Phase.channel_update {chan : Fin N → Destination.Pc F} {phase : ℕ → Phase} {c : Fin N}
    {pc : Destination.Pc F} {p : Phase} (h : ∀ i : Fin N, (phase i).Channel (chan i))
    (hc : p.Channel pc) (i : Fin N) :
    (Function.update phase c p i).Channel (Function.update chan c pc i) := by
  by_cases hi : i = c
  · subst hi
    rw [Function.update_self, Function.update_self]
    exact hc
  · rw [Function.update_of_ne hi, Function.update_of_ne (Fin.val_injective.ne hi)]
    exact h i

/-- A move of the destination's process that does not touch its transfer. -/
lemma DestinationLink.move (h : DestinationLink w t) (hN : N ≠ invalidSignalCount)
    (hm : Move N w .destination .none w') : DestinationLink w' t := by
  obtain ⟨hrange, hchan, hportal, hgate, hopen, hdisposal, hsettled⟩ := h
  cases hm with
  | stay => exact ⟨hrange, hchan, hportal, hgate, hopen, hdisposal, hsettled⟩
  | @enter _ c hc hpc hinit =>
    have hother : ∀ i, (w.setPhase c .inside).phase i = if i = c then .inside else w.phase i :=
      fun i => Function.update_apply _ _ _ _
    refine ⟨Side.setPhase_range hc hrange, fun i => ?_, hportal, .inr ?_, hopen, hdisposal,
      hsettled⟩
    · have hi := hchan i
      rw [hother]
      split_ifs with hic
      · rw [hic, hpc] at hi
        exact hi
      · exact hi
    · rcases hgate with ⟨hfresh, -, -⟩ | hsame
      · have hinit := hinit rfl
        rw [hfresh] at hinit
        exact absurd hinit (by decide)
      · exact hsame
  | initialise hpos hfresh =>
    refine ⟨hrange, hchan, hportal, .inr ⟨rfl, ?_⟩, hopen, hdisposal, hsettled⟩
    rcases hgate with ⟨-, hgate, -⟩ | ⟨htarget, -⟩
    · exact hgate
    · rw [hfresh] at htarget
      exact absurd htarget.symm hN
  | wait hpc =>
    refine ⟨hrange, hchan, ?_, hgate, hopen, hdisposal, fun hclosed => ?_⟩
    · rw [hportal, hpc]
      rfl
    · exact absurd (hpc.symm.trans (hsettled hclosed)) nofun
  | closeChannel hpc => exact ⟨hrange, hchan, hportal, hgate, hopen, hdisposal, fun _ => hpc⟩
  | close hpc _ hd =>
    rw [hd] at hdisposal
    have hidle : t.destination.disposer = .idle := hdisposal
    refine ⟨hrange, hchan, hportal, hgate, hopen, ?_, fun _ => hpc⟩
    show t.destination.disposer ≠ .setEvent ∧ t.destination.disposer ≠ .done
    rw [hidle]
    exact ⟨nofun, nofun⟩

/-- A channel that has left its loop signals the gate. -/
lemma run_exit {c : Fin N} {r : Bool} (hreach : (Session.machine cfg).ReachIf Session.Smooth t)
    (hpc : t.destination.chan c = .exit r) (h : t.step cfg (.run c) = some t') :
    let gate := t.destination.gateAllChannelsFinished.increment
    t' = t.setDestination ((t.destination.setGate gate).setPc c
      (if gate.reached then .setEvent r else .returned r)) := by
  have hinit := (Destination.reach_fixed (Session.reach_destination hreach)).initialized
  cases Session.Step.of_step h with
  | run _ hstep =>
    cases hstep with
    | @signal _ result hpc' _ hs' =>
      obtain rfl : r = result := by simpa using hpc.symm.trans hpc'
      rw [Destination.State.signal, if_pos hinit] at hs'
      rw [← hs']
    | _ => simp_all

/-- The last channel sets the gate. -/
lemma run_setEvent {c : Fin N} {r : Bool} (hpc : t.destination.chan c = .setEvent r)
    (h : t.step cfg (.run c) = some t') :
    t' = t.setDestination ((t.destination.setGate t.destination.gateAllChannelsFinished.set).setPc c
      (.returned r)) := by
  cases Session.Step.of_step h with
  | run _ hstep =>
    cases hstep with
    | @setEvent _ result hpc' =>
      obtain rfl : r = result := by simpa using hpc.symm.trans hpc'
      rfl
    | _ => simp_all

/-- A thread that is behind its loop has an initialised gate. -/
lemma GateLink.same (h : GateLink w t) {c : ℕ} (hc : w.phase c ≠ .before) :
    w.gate.atLeastSignal = N ∧ t.destination.gateAllChannelsFinished = w.gate :=
  h.resolve_left fun hfresh => hc (hfresh.2.2 c)

lemma DestinationLink.signal {c : Fin N} (h : DestinationLink w t)
    (hreach : (Session.machine cfg).ReachIf Session.Smooth t) (hpc : w.phase c = .signalling)
    (hstep : t.step cfg (.run c) = some t') :
    DestinationLink ({ w with gate := w.gate.increment }.setPhase c
      (if w.gate.increment.reached then .setting else .behind)) t' := by
  have hexit := h.chan c
  simp only [hpc, Phase.Channel] at hexit
  obtain ⟨htarget, hsame⟩ := h.gate.same (c := c) (by rw [hpc]; nofun)
  have hrun := run_exit hreach hexit hstep
  rw [hsame] at hrun
  subst hrun
  refine ⟨Side.setPhase_range c.isLt h.range, Phase.channel_update h.chan ?_, h.portal,
    .inr ⟨htarget, rfl⟩, h.portalOpen, h.disposal, h.settled⟩
  split_ifs <;> rfl

lemma DestinationLink.set {c : Fin N} (h : DestinationLink w t) (hpc : w.phase c = .setting)
    (hstep : t.step cfg (.run c) = some t') :
    DestinationLink ({ w with gate := w.gate.set }.setPhase c .behind) t' := by
  have hset := h.chan c
  simp only [hpc, Phase.Channel] at hset
  obtain ⟨htarget, hsame⟩ := h.gate.same (c := c) (by rw [hpc]; nofun)
  have hrun := run_setEvent hset hstep
  rw [hsame] at hrun
  subst hrun
  exact ⟨Side.setPhase_range c.isLt h.range, Phase.channel_update h.chan rfl, h.portal,
    .inr ⟨htarget, rfl⟩, h.portalOpen, h.disposal, h.settled⟩

/-- Behind the exchange the gate of a destination is set up. -/
lemma Linked.same (h : Linked cfg t v w) (hbehind : w.portal = .behind) :
    w.gate.atLeastSignal = N ∧ t.destination.gateAllChannelsFinished = w.gate := by
  have hfixed := Destination.reach_fixed (Session.reach_destination h.reach)
  have hphase := h.destination_behind hfixed.pos (h.returned (.inr hbehind)).2
  exact h.destination.gate.same (c := 0) (by rw [hphase]; nofun)

/-- The files of a destination are closed and its gate is forced. -/
lemma Linked.force (h : Linked cfg t v w) (hd : w.disposal = .closing) (hclosed : filesClosed t)
    (hstep : t.step cfg .dispose = some t') :
    DestinationLink { w with gate := w.gate.force, disposal := .setting } t' := by
  obtain ⟨hreach, -, hlink⟩ := id h
  have hfixed := Destination.reach_fixed (Session.reach_destination hreach)
  have hbehind := hlink.settled (.inl (by rw [hd]; nofun))
  have hsame := h.same hbehind
  obtain ⟨n, hn, hle⟩ : ∃ n, t.destination.disposer = .closeHandle n ∧ F ≤ n := by
    unfold filesClosed at hclosed
    split at hclosed
    · next n hn => exact ⟨n, hn, by simpa using hclosed⟩
    · cases hclosed
  cases Session.Step.of_step hstep with
  | dispose _ _ hdestination =>
    cases hdestination with
    | disposeForce =>
      refine ⟨hlink.range, hlink.chan, hlink.portal, .inr ⟨hsame.1, ?_⟩, hlink.portalOpen, rfl,
        fun _ => hbehind⟩
      show t.destination.gateAllChannelsFinished.force = w.gate.force
      rw [hsame.2]
    | disposeNoGate _ _ hgate => exact absurd hfixed.initialized hgate
    | @disposeClose i hd' =>
      rw [hn] at hd'
      cases hd'
      exact absurd i.isLt (Nat.not_lt.mpr hle)
    | disposeStart hd' | disposeUnmap hd' | disposeSet hd' =>
      rw [hn] at hd'
      cases hd'

/-- Then the gate is set. -/
lemma Linked.setForced (h : Linked cfg t v w) (hd : w.disposal = .setting)
    (hstep : t.step cfg .dispose = some t') :
    DestinationLink { w with gate := w.gate.set, disposal := .behind } t' := by
  obtain ⟨-, -, hlink⟩ := id h
  have hset := hlink.disposal
  simp only [hd, Disposal.Destination] at hset
  have hbehind := hlink.settled (.inl (by rw [hd]; nofun))
  have hsame := h.same hbehind
  cases Session.Step.of_step hstep with
  | dispose _ _ hdestination =>
    cases hdestination with
    | disposeSet =>
      refine ⟨hlink.range, hlink.chan, hlink.portal, .inr ⟨hsame.1, ?_⟩, hlink.portalOpen, rfl,
        fun _ => hbehind⟩
      show t.destination.gateAllChannelsFinished.set = w.gate.set
      rw [hsame.2]
    | disposeStart hd' | disposeUnmap hd' | disposeClose hd' | disposeForce hd'
    | disposeNoGate hd' =>
      rw [hset] at hd'
      cases hd'

/-- A move of the destination's process keeps the links. -/
lemma Linked.moveDestination (h : Linked cfg t v w) (hm : Move N w .destination call w')
    (hcall : ∀ c r, call ≠ .leave c r) (hsync : sync cfg t .destination call = some t') :
    Linked cfg t' v w' := by
  obtain ⟨hreach, hsource, hdestination⟩ := id h
  have hfixed := Destination.reach_fixed (Session.reach_destination hreach)
  have hdispose : w.portal = .behind → Session.Smooth t .dispose := fun hbehind =>
    ⟨(h.returned (.inr hbehind)).2, nofun, nofun⟩
  cases hm with
  | stay | enter | initialise | wait | closeChannel | close =>
    cases hsync
    exact ⟨hreach, hsource, hdestination.move hfixed.lt.ne (by constructor <;> assumption)⟩
  | wake hpc =>
    have hsmooth : Session.Smooth t .wakePortal := ⟨trivial, nofun, nofun⟩
    replace hsync : t.step cfg .wakePortal = some t' := hsync
    cases Session.Step.of_step hsync with
    | wakePortal =>
      refine ⟨.step hreach hsmooth hsync, hsource.congr rfl rfl, hdestination.range,
        hdestination.chan, rfl, hdestination.gate, hdestination.portalOpen, hdestination.disposal,
        fun hclosed => ?_⟩
      exact absurd (hpc.symm.trans (hdestination.settled hclosed)) nofun
  | exchange hpc =>
    have hsmooth : Session.Smooth t .sendFinished := ⟨trivial, nofun, nofun⟩
    replace hsync : t.step cfg .sendFinished = some t' := hsync
    cases Session.Step.of_step hsync with
    | sendFinished =>
      exact ⟨.step hreach hsmooth hsync, hsource.congr rfl rfl, hdestination.range,
        hdestination.chan, rfl, hdestination.gate, hdestination.portalOpen, hdestination.disposal,
        fun _ => rfl⟩
  | leaveDestination => exact absurd rfl (hcall _ _)
  | @signal c hpc =>
    have hc := hdestination.range c (by rw [hpc]; nofun)
    have hsmooth : Session.Smooth t (.run ⟨c, hc⟩) := ⟨trivial, nofun, nofun⟩
    rw [sync, dif_pos hc] at hsync
    refine ⟨.step hreach hsmooth hsync, ?_, hdestination.signal (c := ⟨c, hc⟩) hreach hpc hsync⟩
    have hexit := hdestination.chan ⟨c, hc⟩
    simp only [hpc, Phase.Channel] at hexit
    rw [run_exit hreach hexit hsync]
    exact hsource.congr rfl rfl
  | @set c hpc =>
    have hc := hdestination.range c (by rw [hpc]; nofun)
    have hsmooth : Session.Smooth t (.run ⟨c, hc⟩) := ⟨trivial, nofun, nofun⟩
    rw [sync, dif_pos hc] at hsync
    refine ⟨.step hreach hsmooth hsync, ?_, hdestination.set (c := ⟨c, hc⟩) hpc hsync⟩
    have hset := hdestination.chan ⟨c, hc⟩
    simp only [hpc, Phase.Channel] at hset
    rw [run_setEvent hset hsync]
    exact hsource.congr rfl rfl
  | closePortal hpc =>
    have hsmooth : Session.Smooth t .closePortal := ⟨trivial, nofun, nofun⟩
    replace hsync : t.step cfg .closePortal = some t' := hsync
    cases Session.Step.of_step hsync with
    | closePortal =>
      exact ⟨.step hreach hsmooth hsync, hsource.congr rfl rfl, hdestination.range,
        hdestination.chan, hdestination.portal, hdestination.gate, rfl, hdestination.disposal,
        fun _ => hpc⟩
  | force hd =>
    simp only [sync] at hsync
    split_ifs at hsync with hclosed
    have hsmooth := hdispose (hdestination.settled (.inl (by rw [hd]; nofun)))
    refine ⟨.step hreach hsmooth hsync, ?_, h.force hd hclosed hsync⟩
    cases Session.Step.of_step hsync with
    | dispose => exact hsource.congr rfl rfl
  | setForced hd =>
    have hsmooth := hdispose (hdestination.settled (.inl (by rw [hd]; nofun)))
    replace hsync : t.step cfg .dispose = some t' := hsync
    refine ⟨.step hreach hsmooth hsync, ?_, h.setForced hd hsync⟩
    cases Session.Step.of_step hsync with
    | dispose => exact hsource.congr rfl rfl

/-! ### Steps of a transfer -/

/-- A channel of the source moves on in its loop. -/
lemma SourceLink.loopStep {c : Fin N} {pc : Source.Pc F} (h : SourceLink v t)
    (hinside : v.phase c = .inside) (hpc : ∀ r, pc ≠ .returned r)
    (hchan : t'.source.chan = Function.update t.source.chan c pc)
    (hd : t'.source.disposer = t.source.disposer) (hportal : t'.sourcePortal = t.sourcePortal) :
    SourceLink v t' := by
  obtain ⟨hrange, hphase, hloop, hleft, hwaiting, hsp, hsetting, hidle, hdone, hsettled⟩ := h
  refine ⟨hrange, hphase, fun i hi => ?_, fun i hi => ?_, hwaiting, hportal.trans hsp, hsetting,
    fun hb => hd.trans (hidle hb), fun hb => hd.trans (hdone hb), hsettled⟩
  · rw [hchan, Function.update_apply]
    split_ifs
    · exact hpc
    · exact hloop i hi
  · have hne : i ≠ c := by
      rintro rfl
      exact absurd (hinside.symm.trans hi) nofun
    rw [hchan, Function.update_of_ne hne]
    exact hleft i hi

/-- A channel of the source leaves its loop, with its thread. -/
lemma SourceLink.leave {c : Fin N} (h : SourceLink v t)
    (hchan : t'.source.chan = Function.update t.source.chan c (.returned true))
    (hd : t'.source.disposer = t.source.disposer) (hportal : t'.sourcePortal = t.sourcePortal) :
    SourceLink (v.setPhase c .behind) t' := by
  obtain ⟨hrange, hphase, hloop, hleft, hwaiting, hsp, hsetting, hidle, hdone, hsettled⟩ := h
  have hother : ∀ i, (v.setPhase c .behind).phase i = if i = c then .behind else v.phase i :=
    fun i => Function.update_apply _ _ _ _
  refine ⟨Side.setPhase_range c.isLt hrange, fun i => ?_, fun i hi => ?_, fun i hi => ?_, hwaiting,
    hportal.trans hsp, hsetting, fun hb => hd.trans (hidle hb), fun hb => hd.trans (hdone hb),
    hsettled⟩
  · rw [hother]
    split_ifs
    · exact ⟨nofun, nofun⟩
    · exact hphase i
  · rw [hother] at hi
    split_ifs at hi with hic
    · exact absurd rfl hi
    · rw [hchan, Function.update_of_ne fun heq => hic (by rw [heq])]
      exact hloop i hi
  · rw [hchan, Function.update_apply]
    split_ifs with hic
    · rfl
    · refine hleft i ?_
      rwa [hother, if_neg (Fin.val_injective.ne hic)] at hi

/-- What a step inside the loop of a destination channel leaves. -/
structure LoopStep (s s' : Destination.State F N) (c : Fin N) : Prop where
  gate : s'.gateAllChannelsFinished = s.gateAllChannelsFinished
  disposer : s'.disposer = s.disposer
  chan : ∃ pc, s'.chan = Function.update s.chan c pc ∧ (Session.InLoop pc ∨ ∃ r, pc = .exit r)

lemma LoopStep.of_step {e : Bytes.Endian} {s s' : Destination.State F N} {a : Destination.Action N}
    {c : Fin N} (h : Destination.Step e s a s') (ha : a.actor = some c)
    (hloop : Session.InLoop (s.chan c)) : LoopStep s s' c := by
  have hstay : ∃ pc, s.chan = Function.update s.chan c pc ∧
      (Session.InLoop pc ∨ ∃ r, pc = .exit r) :=
    ⟨s.chan c, (Function.update_eq_self _ _).symm, .inl hloop⟩
  cases h with
  | badTail | badIndex | unmapped =>
    cases ha
    exact ⟨rfl, rfl, hstay⟩
  | @count _ blockSize n hpc _ hs' =>
    cases ha
    subst hs'
    unfold Destination.State.countReceived
    simp only
    split_ifs
    · exact ⟨rfl, rfl, _, rfl, .inl fun r => ⟨nofun, nofun, nofun⟩⟩
    · exact ⟨rfl, rfl, _, rfl, .inl fun r => ⟨nofun, nofun, nofun⟩⟩
    · exact ⟨rfl, rfl, hstay⟩
  | signal hpc =>
    cases ha
    exact absurd hpc (hloop _).1
  | setEvent hpc =>
    cases ha
    exact absurd hpc (hloop _).2.1
  | headerFailed | bodyFailed | checkTail | disposed =>
    cases ha
    exact ⟨rfl, rfl, _, rfl, .inr ⟨_, rfl⟩⟩
  | recvHeader | recvBody | mapped | load | unmap | close | report =>
    cases ha
    exact ⟨rfl, rfl, _, rfl, .inl fun r => ⟨nofun, nofun, nofun⟩⟩
  | disposeStart | disposeClose | disposeUnmap | disposeForce | disposeNoGate | disposeSet =>
    cases ha

/-- A channel of the destination moves on in its loop, or leaves it with its thread. -/
lemma DestinationLink.loopStep {c : Fin N} {pc : Destination.Pc F} {p : Phase}
    (h : DestinationLink w t) (hl : LoopStep t.destination t'.destination c)
    (hinside : w.phase c = .inside) (hpc : t'.destination.chan c = pc) (hp : p.Channel pc)
    (hportal : t'.destinationPortal = t.destinationPortal) (hopen : t'.portalOpen = t.portalOpen) :
    DestinationLink (w.setPhase c p) t' := by
  obtain ⟨hrange, hchan, hdp, hgate, hpo, hdisposal, hsettled⟩ := h
  obtain ⟨hsame, hd, pc', hupdate, -⟩ := hl
  obtain rfl : pc' = pc := by rw [← hpc, hupdate, Function.update_self]
  have hinit := hgate.resolve_left fun hfresh => by
    have hbefore := hfresh.2.2 c
    rw [hinside] at hbefore
    cases hbefore
  refine ⟨Side.setPhase_range c.isLt hrange, ?_, hportal.trans hdp,
    .inr ⟨hinit.1, hsame.trans hinit.2⟩, hopen.trans hpo, ?_, hsettled⟩
  · rw [hupdate]
    exact Phase.channel_update hchan hp
  · rw [hd]
    exact hdisposal

/-- What a step of a transfer leaves: the threads are in their loops, or one of them has left its
loop with success. -/
inductive Moved (cfg : Session.Config F N) (t' : Session.State F N) (v w : Side) :
    Option (TransferKind × Fin N × Bool) → Prop where
  | inside (h : Linked cfg t' v w) : Moved cfg t' v w none
  | source {c : Fin N} (hpc : v.phase c = .inside) (h : Linked cfg t' (v.setPhase c .behind) w) :
      Moved cfg t' v w (some (.source, c, true))
  | destination {c : Fin N} (hpc : w.phase c = .inside)
      (h : Linked cfg t' v (w.setPhase c .signalling)) :
      Moved cfg t' v w (some (.destination, c, true))

/-- No send of the source fails. -/
lemma Linked.not_sendFailed (h : Linked cfg t v w) {c : Fin N} (hinside : v.phase c = .inside) :
    v.chanOpen c = true ∧ w.chanOpen c = true ∧ sendsClosedFile t c = false := by
  obtain ⟨hv, hw⟩ := h.inside_open c.isLt (.inl (by rw [hinside]; nofun))
  refine ⟨h.source.settled.chanOpen hv c, h.destination.settled.chanOpen hw c, ?_⟩
  have hidle := h.source.idle (h.source.settled.before hv)
  unfold sendsClosedFile
  split
  · rw [h.inOrder.handles.fileOpen hidle]
    rfl
  · rfl

/-- No `recv` of the destination fails. -/
lemma Linked.not_recvFailed (h : Linked cfg t v w) {c : Fin N} (hinside : w.phase c = .inside) :
    v.chanOpen c = true ∧ w.chanOpen c = true := by
  obtain ⟨hv, hw⟩ := h.inside_open c.isLt (.inr (by rw [hinside]; nofun))
  exact ⟨h.source.settled.chanOpen hv c, h.destination.settled.chanOpen hw c⟩

lemma Linked.moved_source (h : Linked cfg t v w) {a : Source.Action N}
    (hmay : transferMay t v w (.source a)) (hstep : t.step cfg (.source a) = some t') :
    Moved cfg t' v w (loopResult t' (.source a)) := by
  obtain ⟨hreach, hsource, hdestination⟩ := id h
  have hclosing : a = .dispose → v.disposal = .closing := by
    rintro rfl
    simpa [transferMay] using hmay
  have hsmooth : Session.Smooth t (.source a) := by
    refine ⟨?_, nofun, nofun⟩
    cases a with
    | dispose =>
      have hbehind := hsource.settled (.inl (by rw [hclosing rfl]; nofun))
      exact (h.returned (.inl hbehind)).1
    | _ => trivial
  have hreach' := hreach.step hsmooth hstep
  cases Session.Step.of_step hstep with
  | @send c next source hs =>
    have hinside : v.phase c = .inside := by
      simp only [transferMay, Bool.and_eq_true, decide_eq_true_eq] at hmay
      exact hmay.1
    refine .inside ⟨hreach', ?_, hdestination.congr rfl rfl rfl⟩
    cases hs with
    | send => exact hsource.loopStep hinside (by nofun) rfl rfl rfl
  | @sendTail c source hs =>
    have hinside : v.phase c = .inside := by
      simp only [transferMay, Bool.and_eq_true, decide_eq_true_eq] at hmay
      exact hmay.1
    cases hs with
    | sendTail =>
      have hresult : loopResult ((t.setWire c (t.wire c ++ t.nextBytes cfg c)).setSource
          (t.source.setPc c (.returned true))) (.source (.sendTail c)) =
            some (.source, c, true) := by
        simp [loopResult]
      rw [hresult]
      exact .source hinside ⟨hreach', hsource.leave rfl rfl rfl, hdestination.congr rfl rfl rfl⟩
  | @source _ source ha hs =>
    have hframe : DestinationLink w (t.setSource source) := hdestination.congr rfl rfl rfl
    rcases ha with ⟨c, rfl⟩ | ⟨c, rfl⟩ | rfl
    · have hinside : v.phase c = .inside := by simpa [transferMay] using hmay
      refine .inside ⟨hreach', ?_, hframe⟩
      cases hs with
      | @claim _ n hpc =>
        obtain ⟨pc, hpc', hchan⟩ := Source.chan_claim cfg.files t.source c n
        refine hsource.loopStep hinside hpc' hchan ?_ rfl
        unfold Source.State.claim
        simp only [Session.State.source_setSource]
        split_ifs <;> rfl
    · have hinside : v.phase c = .inside := by simpa [transferMay] using hmay
      refine .inside ⟨hreach', ?_, hframe⟩
      cases hs with
      | report => exact hsource.loopStep hinside (by nofun) rfl rfl rfl
    · have hd := hclosing rfl
      refine .inside ⟨hreach', ?_, hframe⟩
      have hchan : ∀ {source}, Source.Step cfg.files t.source .dispose source →
          source.chan = t.source.chan := fun hs => by cases hs <;> rfl
      refine ⟨hsource.range, hsource.phase, ?_, ?_, hsource.waiting, hsource.portal,
        hsource.setting, fun hb => ?_, fun hb => ?_, hsource.settled⟩
      · rw [Session.State.source_setSource, hchan hs]
        exact hsource.loop
      · rw [Session.State.source_setSource, hchan hs]
        exact hsource.left
      · exact absurd (hd.symm.trans hb) nofun
      · exact absurd (hd.symm.trans hb) nofun

lemma Linked.moved_destination (h : Linked cfg t v w) {c : Fin N} {a : Session.Action N}
    (ha : a = .recv c ∨ a = .run c) (hinside : w.phase c = .inside)
    (hstep : t.step cfg a = some t') : Moved cfg t' v w (loopResult t' a) := by
  obtain ⟨hreach, hsource, hdestination⟩ := id h
  have hsmooth : Session.Smooth t a := by rcases ha with rfl | rfl <;> exact ⟨trivial, nofun, nofun⟩
  have hreach' := hreach.step hsmooth hstep
  have hloop := hdestination.chan c
  simp only [hinside, Phase.Channel] at hloop
  obtain ⟨hl, hsource', hportal, hopen, hrecv⟩ :
      LoopStep t.destination t'.destination c ∧ SourceLink v t' ∧
        t'.destinationPortal = t.destinationPortal ∧ t'.portalOpen = t.portalOpen ∧
        (a = .recv c → Session.InLoop (t'.destination.chan c)) := by
    rcases ha with rfl | rfl
    · cases Session.Step.of_step hstep with
      | recv _ _ hd =>
        refine ⟨.of_step hd rfl hloop, hsource.congr rfl rfl, rfl, rfl, fun _ => ?_⟩
        cases hd with
        | recvHeader | recvBody =>
          simp only [Session.State.destination_setDestination, Destination.State.chan_setPc,
            Function.update_self]
          exact fun r => ⟨nofun, nofun, nofun⟩
    · cases Session.Step.of_step hstep with
      | run _ hd => exact ⟨.of_step hd rfl hloop, hsource.congr rfl rfl, rfl, rfl, nofun⟩
  obtain ⟨pc, hupdate, hpc⟩ := hl.chan
  have hchan : t'.destination.chan c = pc := by rw [hupdate, Function.update_self]
  rcases hpc with hin | ⟨r, rfl⟩
  · have hnone : loopResult t' a = none := by
      rcases ha with rfl | rfl
      · rfl
      · simp only [loopResult]
        split
        · next r hr => exact absurd (hchan.symm.trans hr) (hin r).1
        · rfl
    rw [hnone]
    have hlink := hdestination.loopStep (p := .inside) hl hinside hchan hin hportal hopen
    rw [Side.setPhase_of_eq hinside] at hlink
    exact .inside ⟨hreach', hsource', hlink⟩
  · obtain rfl : r = true := by
      have hok := (Session.InOrder.of_reach hreach').inv.destination_ok c
      rw [hchan] at hok
      cases r with
      | true => rfl
      | false => exact absurd trivial hok
    have hsome : loopResult t' a = some (.destination, c, true) := by
      rcases ha with rfl | rfl
      · exact absurd hchan ((hrecv rfl) true).1
      · simp only [loopResult, hchan]
    rw [hsome]
    exact .destination hinside
      ⟨hreach', hsource', hdestination.loopStep hl hinside hchan rfl hportal hopen⟩

/-- A step of the destination's files. -/
lemma Linked.moved_dispose (h : Linked cfg t v w) (hd : w.disposal = .closing)
    (hclosed : filesClosed t = false) (hstep : t.step cfg .dispose = some t') :
    Linked cfg t' v w := by
  obtain ⟨hreach, hsource, hdestination⟩ := id h
  have hbehind := hdestination.settled (.inl (by rw [hd]; nofun))
  have hsmooth : Session.Smooth t .dispose := ⟨(h.returned (.inr hbehind)).2, nofun, nofun⟩
  have hdisposer := hdestination.disposal
  simp only [hd, Disposal.Destination] at hdisposer
  obtain ⟨hrange, hchan, hportal, hgate, hopen, -, hsettled⟩ := hdestination
  cases Session.Step.of_step hstep with
  | dispose _ _ hs =>
    refine ⟨hreach.step hsmooth hstep, hsource.congr rfl rfl, ?_⟩
    cases hs with
    | disposeStart | disposeClose | disposeUnmap =>
      refine ⟨hrange, hchan, hportal, hgate, hopen, ?_, hsettled⟩
      rw [hd]
      exact ⟨nofun, nofun⟩
    | disposeForce hn hle | disposeNoGate hn hle =>
      simp only [filesClosed, hn, decide_eq_false_iff_not] at hclosed
      exact absurd (Nat.le_of_not_lt hle) hclosed
    | disposeSet hset => exact absurd hset hdisposer.1

/-- A step of a transfer that its process admits. -/
lemma Linked.moved (h : Linked cfg t v w) {a : Session.Action N} (hmay : transferMay t v w a)
    (hstep : t.step cfg a = some t') : Moved cfg t' v w (loopResult t' a) := by
  cases a with
  | source a => exact h.moved_source hmay hstep
  | sendFailed c count =>
    simp only [transferMay, Bool.and_eq_true, decide_eq_true_eq] at hmay
    obtain ⟨hown, hpeer, hfile⟩ := h.not_sendFailed hmay.1
    simp [hown, hpeer, hfile] at hmay
  | recv c =>
    simp only [transferMay, Bool.and_eq_true, decide_eq_true_eq] at hmay
    exact h.moved_destination (.inl rfl) hmay.1 hstep
  | recvFailed c count =>
    simp only [transferMay, Bool.and_eq_true, decide_eq_true_eq] at hmay
    obtain ⟨hown, hpeer⟩ := h.not_recvFailed hmay.1
    simp [hown, hpeer] at hmay
  | run c => exact h.moved_destination (.inr rfl) (by simpa [transferMay] using hmay) hstep
  | dispose =>
    simp only [transferMay, Bool.and_eq_true, decide_eq_true_eq, Bool.not_eq_true'] at hmay
    exact .inside (h.moved_dispose hmay.1 hmay.2 hstep)
  | closePortal | wakePortal | sendFinished | sendFinishedFailed | recvFinished
  | recvFinishedFailed => cases hmay

end Protocol

end Xcp
