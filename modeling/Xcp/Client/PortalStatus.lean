import Xcp.Client.PortalThreads
import Xcp.Library.Counting

/-!
# The result of a client

`transfer_result_status` is stored by every channel that fails, and compared and exchanged by the
portal thread. The gate of a download is set by its last channel as long as the socket of the portal
is not disposed, so that a portal thread that could still send has waited for all of them.
-/

namespace Xcp

namespace ClientPortal

variable {isFromServerToClient : Bool} {s s' : State} {a : Action}

/-! ### What is stored -/

/-- The portal thread has stored the result. -/
def PortalPc.Stored (pc : PortalPc) : Prop := pc = .exit ∨ pc = .requireExit ∨ pc = .done

/-- The thread of a channel has left `invoke_channel` and has not stored its result. -/
def ChannelPc.Leaving (pc : ChannelPc) (result : Bool) : Prop :=
  pc = .signalFinished result ∨ pc = .setFinished result ∨ pc = .storeStatus result

/-- The thread of a channel has not left `invoke_channel`. -/
def ChannelPc.BeforeResult : ChannelPc → Prop
  | .absent | .connecting | .waitReady | .check | .assertTransfer | .invoke | .transferring => True
  | _ => False

attribute [grind] PortalPc.Stored ChannelPc.Leaving
attribute [grind =] ChannelPc.BeforeResult

/-- What `transfer_result_status` tells of the results of the threads, and what the main thread
has read of it. -/
structure Results (s : State) : Prop where
  portal : ∀ r, s.portal = .storeStatus r → s.portalResult = some r
  stored : s.portalResult ≠ none → (∃ r, s.portal = .storeStatus r) ∨ s.portal.Stored
  succeeded : s.transferResultStatus = .succeeded → s.portalResult = some true
  before : ∀ c, (s.chan c).BeforeResult → s.channelResult c = none
  leaving : ∀ c r, (s.chan c).Leaving r → s.channelResult c = some r
  failed : ∀ c, s.channelResult c = some false →
    s.transferResultStatus = .failed ∨ (s.chan c).Leaving false
  main : s.main = .read → s.disposer = .done
  read : ∀ status, s.read = some status → s.disposer = .done ∧ status = s.transferResultStatus

lemma Results.mainStep (hs : Results s) (ht : Teardown s) (h : MainStep s s') : Results s' := by
  obtain ⟨hportal, hstored, hsucceeded, hbefore, hleaving, hfailed, hmain, hread⟩ := hs
  cases h with
  | connected hpc =>
    have habsent := (ht.init hpc).2
    dsimp only [State.setMain]
    constructor <;> first | assumption | grind -linarith
  | dispose =>
    rw [startDispose_eq]
    dsimp only [State.setMain]
    constructor <;> first | assumption | grind -linarith
  | noTransfer | notConnected | waitExit | waitDispose | read =>
    dsimp only [State.setMain]
    constructor <;> first | assumption | grind -linarith

lemma Results.portalStep (hs : Results s) (ht : Teardown s) (hr : Threads s)
    (h : PortalStep isFromServerToClient s s') : Results s' := by
  have hended := ht.portal
  obtain ⟨hportal, hstored, hsucceeded, hbefore, hleaving, hfailed, hmain, hread⟩ := hs
  cases h with
  | exit =>
    rw [startDispose_eq]
    dsimp only [State.setPortal]
    constructor <;> first | assumption | grind -linarith
  | useNull | transferNull | signalCount | invokeNullSocket =>
    exact ⟨hportal, hstored, hsucceeded, hbefore, hleaving, hfailed, hmain, hread⟩
  | create hpc =>
    have habsent := hr.absent hpc
    dsimp only [State.setPortal, State.setChan]
    constructor <;> first | assumption | grind -linarith
  | _ =>
    dsimp only [State.setPortal]
    constructor <;> first | assumption | grind -linarith

lemma Results.channelStep {c : ℕ} (hs : Results s) (hr : Threads s)
    (h : ChannelStep isFromServerToClient s c s') : Results s' := by
  have hended := hr.ended
  obtain ⟨hportal, hstored, hsucceeded, hbefore, hleaving, hfailed, hmain, hread⟩ := hs
  cases h with
  | @exit success hpc =>
    cases success with
    | true =>
      dsimp only [State.setChan]
      constructor <;> first | assumption | grind -linarith
    | false =>
      rw [startDispose_eq]
      dsimp only [State.setChan]
      constructor <;> first | assumption | grind -linarith
  | transferNull =>
    exact ⟨hportal, hstored, hsucceeded, hbefore, hleaving, hfailed, hmain, hread⟩
  | _ =>
    dsimp only [State.setChan]
    constructor <;> first | assumption | grind -linarith

lemma Results.step (hs : Results s) (hi : Inv s) (h : Step isFromServerToClient s a s') :
    Results s' := by
  cases h with
  | main h => exact hs.mainStep hi.teardown h
  | signal =>
    exact ⟨hs.portal, hs.stored, hs.succeeded, hs.before, hs.leaving, hs.failed, hs.main, hs.read⟩
  | portal h => exact hs.portalStep hi.teardown hi.threads h
  | channel h => exact hs.channelStep hi.threads h
  | dispose _ h =>
    obtain ⟨hportal, hstored, hsucceeded, hbefore, hleaving, hfailed, hmain, hread⟩ := hs
    cases h <;>
    · dsimp only [State.setDisposer]
      constructor <;> first | assumption | grind -linarith

/-! ### The gate of a download -/

/-- The portal thread has initialised the transfer of a download. -/
def PortalPc.PastInfo (pc : PortalPc) : Prop :=
  pc = .setCallback ∨ pc = .signalReady ∨ pc = .setReady ∨ pc.PastReady

attribute [grind] PortalPc.PastInfo

/-- The channel has signalled the gate. -/
def Signalled (s : State) (c : ℕ) : Prop :=
  s.channelResult c ≠ none ∧ ∀ r, s.chan c ≠ .signalFinished r

attribute [grind] Signalled

/-- The gate is initialised for all channels before one of them transfers. -/
structure GateReady (s : State) : Prop where
  portal : s.portal = .setCallback ∨ s.portal = .signalReady ∨ s.portal = .setReady →
    s.gateAllChannelsFinished.initialized = true
  ready : s.disposer.stage ≤ 8 → s.gateClientPortalReady.isSet = true →
    s.gateAllChannelsFinished.initialized = true
  chan : ∀ c, (s.chan c).PastCheck ∨ s.channelResult c ≠ none →
    s.gateAllChannelsFinished.initialized = true
  total : s.gateAllChannelsFinished.initialized = true →
    s.portal.PastInfo ∧ s.gateAllChannelsFinished.atLeastSignal = s.total
  fresh : s.disposer.stage ≤ 4 → s.gateAllChannelsFinished.initialized = false →
    s.gateAllChannelsFinished = {}

lemma GateReady.portalStep (hs : GateReady s) (h : PortalStep true s s') : GateReady s' := by
  obtain ⟨hportal, hready, hchan, htotal, hfresh⟩ := hs
  cases h with
  | exit =>
    rw [startDispose_eq]
    dsimp only [State.setPortal]
    constructor <;> first | assumption | grind -linarith
  | useNull | transferNull | signalCount | invokeNullSocket =>
    exact ⟨hportal, hready, hchan, htotal, hfresh⟩
  | _ =>
    dsimp only [State.setPortal, State.setChan] at *
    constructor <;> first | assumption | grind -linarith

lemma GateReady.channelStep {c : ℕ} (hs : GateReady s) (hr : Started s)
    (h : ChannelStep true s c s') : GateReady s' := by
  have hcheck := hr.check
  obtain ⟨hportal, hready, hchan, htotal, hfresh⟩ := hs
  cases h with
  | @exit success hpc =>
    cases success with
    | true =>
      dsimp only [State.setChan]
      constructor <;> first | assumption | grind -linarith
    | false =>
      rw [startDispose_eq]
      dsimp only [State.setChan]
      constructor <;> first | assumption | grind -linarith
  | transferNull => exact ⟨hportal, hready, hchan, htotal, hfresh⟩
  | _ =>
    dsimp only [State.setChan] at *
    constructor <;> first | assumption | grind -linarith

lemma GateReady.step (hs : GateReady s) (hi : Inv s) (h : Step true s a s') : GateReady s' := by
  cases h with
  | main h =>
    have hinit := hi.teardown.init
    obtain ⟨hportal, hready, hchan, htotal, hfresh⟩ := hs
    cases h with
    | dispose =>
      rw [startDispose_eq]
      dsimp only [State.setMain]
      constructor <;> first | assumption | grind -linarith
    | _ =>
      dsimp only [State.setMain]
      constructor <;> first | assumption | grind -linarith
  | signal => exact ⟨hs.portal, hs.ready, hs.chan, hs.total, hs.fresh⟩
  | portal h => exact hs.portalStep h
  | channel h => exact hs.channelStep hi.started h
  | dispose _ h =>
    obtain ⟨hportal, hready, hchan, htotal, hfresh⟩ := hs
    cases h <;>
    · dsimp only [State.setDisposer]
      constructor <;> first | assumption | grind -linarith

/-- Until the gate is forced, it has counted the channels that have signalled it; it is set only by
the last one, and the portal thread has waited for it. -/
structure GateCount (s : State) : Prop where
  count : s.disposer.stage ≤ 4 → Counts (Signalled s) s.gateAllChannelsFinished.currSignalCount
  isSet : s.disposer.stage ≤ 4 → s.gateAllChannelsFinished.isSet = true ∨
    (∃ c r, s.chan c = .setFinished r) → ∀ c < s.total, s.channelResult c ≠ none
  exchange : s.portal = .exchange → s.gateAllChannelsFinished.isSet = true
  total : s.total < 2 ^ 64
  result : s.portalResult = some true → ∀ c < s.total, s.channelResult c ≠ none

/-- A step that the gate does not notice. -/
lemma GateCount.congr (hs : GateCount s) (hd : s'.disposer.stage ≤ 4 → s.disposer.stage ≤ 4)
    (hgate : s'.gateAllChannelsFinished = s.gateAllChannelsFinished)
    (hsig : ∀ c, Signalled s' c ↔ Signalled s c)
    (hset : ∀ c r, s'.chan c = .setFinished r → s.chan c = .setFinished r)
    (hresult : ∀ c, s.channelResult c ≠ none → s'.channelResult c ≠ none)
    (htotal : s'.total = s.total)
    (hportal : s'.portal = .exchange → s.portal = .exchange ∨
      s.gateAllChannelsFinished.isSet = true)
    (hportal' : s'.portalResult = s.portalResult) : GateCount s' := by
  constructor
  · rw [hgate]
    exact fun hle => (hs.count (hd hle)).congr hsig
  · rw [hgate, htotal]
    rintro hle (h | ⟨c, r, h⟩) i hi
    · exact hresult i (hs.isSet (hd hle) (.inl h) i hi)
    · exact hresult i (hs.isSet (hd hle) (.inr ⟨c, r, hset c r h⟩) i hi)
  · rw [hgate]
    intro h
    rcases hportal h with h | h
    · exact hs.exchange h
    · exact h
  · rw [htotal]
    exact hs.total
  · rw [htotal, hportal']
    exact fun h i hi => hresult i (hs.result h i hi)

lemma GateCount.portalStep (hs : GateCount s) (hi : Inv s) (hr : Results s) (hg : GateReady s)
    (h : PortalStep true s s') : GateCount s' := by
  have hrefl : ∀ c, Signalled s c ↔ Signalled s c := fun _ => Iff.rfl
  cases h with
  | exit =>
    rw [startDispose_eq]
    refine hs.congr ?_ rfl hrefl (fun _ _ => id) (fun _ => id) rfl nofun rfl
    dsimp only [State.setPortal]
    grind -linarith
  | create hpc =>
    have habsent := hi.threads.absent hpc
    have hnone := hr.before _ (by rw [habsent]; trivial)
    refine hs.congr id rfl (fun i => ?_) (fun i r => ?_) (fun _ => id) rfl nofun rfl
    · dsimp only [State.setPortal, State.setChan, Signalled]
      grind -linarith
    · dsimp only [State.setPortal, State.setChan]
      grind -linarith
  | information hpc hopen htotal =>
    have habsent := hi.threads.before (by rw [hpc]; trivial)
    have hnone : ∀ c, s.channelResult c = none := fun c => hr.before c (by rw [habsent c]; trivial)
    have hgate : s.gateAllChannelsFinished = {} := by
      refine hg.fresh ((hi.teardown.socketOpen.mpr hopen).trans (by decide)) ?_
      by_contra hinit
      have hpast := (hg.total (by simpa using hinit)).1
      grind -linarith
    have hunset : s.gateAllChannelsFinished.isSet = false := by rw [hgate]
    refine ⟨fun hle => (hs.count hle).congr fun _ => Iff.rfl, ?_, nofun, htotal, fun h => ?_⟩
    · rintro - (h | ⟨c, r, h⟩)
      · exact absurd (hunset.symm.trans h) nofun
      · exact absurd ((habsent c).symm.trans h) nofun
    · have hsome : s.portalResult = some true := h
      rcases hr.stored (by rw [hsome]; nofun) with ⟨r, h⟩ | h
      · exact absurd (hpc.symm.trans h) nofun
      · exact absurd h (by rw [hpc]; nofun)
  | initInfo hpc htransfer htotal hvalid hpc' =>
    have hnone : ∀ c, s.channelResult c = none := by
      intro c
      by_contra hne
      have hpast := hi.started.past c (.inr hne)
      grind -linarith
    have hcount : Counts (Signalled s) 0 := .zero fun c hc => hc.1 (hnone c)
    have hset : ∀ c r, s.chan c ≠ .setFinished r := by
      intro c r hc
      have hsome := hr.leaving c r (.inr (.inl hc))
      rw [hnone c] at hsome
      cases hsome
    obtain ⟨-, -, hexchange, hbound, hresult⟩ := hs
    constructor
    · exact fun _ => hcount
    · rintro - (h | ⟨c, r, h⟩)
      · cases h
      · exact absurd h (hset c r)
    · intro hpc''
      rcases hpc' with rfl | rfl <;> cases hpc''
    · exact hbound
    · exact hresult
  | @exchange result hpc hopen =>
    obtain ⟨hcount, hset, hexchange, hbound, -⟩ := hs
    refine ⟨hcount, hset, nofun, hbound, fun h => ?_⟩
    obtain rfl : result = true := Option.some.inj h
    have hstage := hi.teardown.socketOpen.mpr (hopen rfl)
    exact hset (hstage.trans (by decide)) (.inl (hexchange hpc))
  | waitFinished hpc hset =>
    refine hs.congr id rfl hrefl (fun _ _ => id) (fun _ => id) rfl ?_ rfl
    exact fun _ => .inr hset
  | useNull | transferNull | signalCount | invokeNullSocket =>
    exact ⟨hs.count, hs.isSet, hs.exchange, hs.total, hs.result⟩
  | _ =>
    refine hs.congr id rfl hrefl (fun _ _ => id) (fun _ => id) rfl ?_ rfl
    dsimp only [State.setPortal]
    grind -linarith

/-- Every channel that has signalled the gate is one of those announced. -/
lemma Signalled.lt {c : ℕ} (h : Signalled s c) (hi : Inv s) (hr : Results s) : c < s.total := by
  refine hi.threads.total c fun habsent => h.1 (hr.before c ?_)
  rw [habsent]
  trivial

lemma GateCount.signalFinished {c : ℕ} {result : Bool} (hs : GateCount s) (hi : Inv s)
    (hr : Results s) (hg : GateReady s) (hpc : s.chan c = .signalFinished result)
    (hgate : s'.gateAllChannelsFinished = s.gateAllChannelsFinished.increment)
    (hchan : s'.chan = Function.update s.chan c
      (if s.gateAllChannelsFinished.increment.reached then .setFinished result
        else .storeStatus result))
    (hd : s'.disposer = s.disposer) (htotal : s'.total = s.total)
    (hresult : s'.channelResult = s.channelResult) (hportal : s'.portal = s.portal)
    (hportal' : s'.portalResult = s.portalResult) : GateCount s' := by
  have hsome : s.channelResult c = some result := hr.leaving c result (.inl hpc)
  have hnot : ¬ Signalled s c := fun h => h.2 result hpc
  have hsig : ∀ i, Signalled s' i ↔ i = c ∨ Signalled s i := by
    intro i
    rw [Signalled, Signalled, hresult, hchan]
    grind -linarith
  have hlt : ∀ i, i = c ∨ Signalled s i → i ∈ Finset.range s.total := by
    rintro i (rfl | h)
    · exact Finset.mem_range.mpr (hi.threads.total i (by simp [hpc]))
    · exact Finset.mem_range.mpr (h.lt hi hr)
  -- the counter does not wrap
  have hcount : s.disposer.stage ≤ 4 →
      Counts (Signalled s') (s.gateAllChannelsFinished.currSignalCount + 1) ∧
      s'.gateAllChannelsFinished.currSignalCount =
        s.gateAllChannelsFinished.currSignalCount + 1 := by
    intro hle
    have hsucc := (hs.count hle).succ hnot hsig
    have hcard := hsucc.le_card fun i hi => hlt i ((hsig i).mp hi)
    rw [Finset.card_range] at hcard
    refine ⟨hsucc, ?_⟩
    rw [hgate, GateGuard.increment, toU64_of_lt (hcard.trans_lt hs.total)]
  constructor
  · rw [hd]
    intro hle
    rw [(hcount hle).2]
    exact (hcount hle).1
  · rw [hd, htotal, hresult, hgate]
    rintro hle (h | ⟨i, r, h⟩) j hj
    · exact hs.isSet hle (.inl h) j hj
    · rw [hchan, Function.update_apply] at h
      split_ifs at h with hic hreached
      · obtain ⟨hsucc, hcurr⟩ := hcount hle
        have hinit := hg.chan c (.inr (by simp [hsome]))
        rw [GateGuard.reached_iff, ← hgate, hcurr, hgate, GateGuard.atLeastSignal_increment,
          (hg.total hinit).2] at hreached
        have hall := hsucc.forall_mem (fun i hi => hlt i ((hsig i).mp hi))
          (by rw [Finset.card_range, hreached])
        have hj' := (hall j (Finset.mem_range.mpr hj)).1
        rwa [hresult] at hj'
      · exact hs.isSet hle (.inr ⟨i, r, h⟩) j hj
  · rw [hportal, hgate]
    exact hs.exchange
  · rw [htotal]
    exact hs.total
  · rw [htotal, hportal', hresult]
    exact hs.result

lemma GateCount.channelStep {c : ℕ} (hs : GateCount s) (hi : Inv s) (hr : Results s)
    (hg : GateReady s) (h : ChannelStep true s c s') : GateCount s' := by
  have hbefore := hr.before c
  cases h with
  | signalFinished hpc =>
    exact hs.signalFinished hi hr hg hpc rfl rfl rfl rfl rfl rfl rfl
  | @setFinished result hpc =>
    obtain ⟨hcount, hset, hexchange, hbound, hresult⟩ := hs
    refine ⟨fun hle => (hcount hle).congr fun i => ?_, fun hle _ => ?_, fun _ => rfl, hbound,
      hresult⟩
    · dsimp only [State.setChan, Signalled]
      grind -linarith
    · exact hset hle (.inr ⟨c, result, hpc⟩)
  | @exit success hpc =>
    cases success with
    | true =>
      refine hs.congr id rfl (fun i => ?_) (fun i r => ?_) (fun _ => id) rfl .inl rfl <;>
      · dsimp only [State.setChan, Signalled]
        grind -linarith
    | false =>
      rw [startDispose_eq]
      refine hs.congr ?_ rfl (fun i => ?_) (fun i r => ?_) (fun _ => id) rfl .inl rfl <;>
      · dsimp only [State.setChan, Signalled]
        grind -linarith
  | transferNull => exact ⟨hs.count, hs.isSet, hs.exchange, hs.total, hs.result⟩
  | @transferred result hpc =>
    have hnone := hbefore (by rw [hpc]; trivial)
    refine hs.congr id rfl (fun i => ?_) (fun i r => ?_) (fun i => ?_) rfl .inl rfl <;>
    · dsimp only [State.setChan, Signalled]
      by_cases hic : i = c
      · simp [hic, hnone]
      · simp [hic]
  | _ =>
    refine hs.congr id rfl (fun i => ?_) (fun i r => ?_) (fun _ => id) rfl .inl rfl <;>
    · dsimp only [State.setChan, Signalled]
      grind -linarith

lemma GateCount.step (hs : GateCount s) (hi : Inv s) (hr : Results s) (hg : GateReady s)
    (h : Step true s a s') : GateCount s' := by
  have hrefl : ∀ c, Signalled s c ↔ Signalled s c := fun _ => Iff.rfl
  cases h with
  | main h =>
    cases h with
    | dispose =>
      rw [startDispose_eq]
      refine hs.congr ?_ rfl hrefl (fun _ _ => id) (fun _ => id) rfl .inl rfl
      dsimp only [State.setMain]
      grind -linarith
    | connected =>
      refine hs.congr id rfl hrefl (fun _ _ => id) (fun _ => id) rfl ?_ rfl
      exact nofun
    | _ =>
      refine hs.congr id rfl hrefl (fun _ _ => id) (fun _ => id) rfl ?_ rfl
      exact .inl
  | signal => exact ⟨hs.count, hs.isSet, hs.exchange, hs.total, hs.result⟩
  | portal h => exact hs.portalStep hi hr hg h
  | channel h => exact hs.channelStep hi hr hg h
  | dispose _ h =>
    cases h with
    | forceFinished | setFinished =>
      obtain ⟨hcount, hset, hexchange, hbound, hresult⟩ := hs
      dsimp only [State.setDisposer]
      constructor <;> first | assumption | grind -linarith
    | _ =>
      refine hs.congr ?_ rfl hrefl (fun _ _ => id) (fun _ => id) rfl .inl rfl
      dsimp only [State.setDisposer]
      grind -linarith

/-! ### The exit status -/

lemma Results.of_reach (h : (machine isFromServerToClient).Reach s) : Results s := by
  refine h.invariant ?_ fun s a s' hr hs _ hstep =>
    hs.step (.of_reach hr) (Step.of_step hstep).2
  rintro s rfl
  constructor <;> simp [ChannelPc.Leaving]

lemma GateCount.of_reach (h : (machine true).Reach s) : GateReady s ∧ GateCount s := by
  refine h.invariant (I := fun s => GateReady s ∧ GateCount s) ?_ ?_
  · rintro s rfl
    constructor
    · constructor <;> simp [ChannelPc.PastCheck, GateGuard.initialized]
    · constructor <;> simp [DisposerPc.stage]
      exact .zero fun c hc => hc.1 rfl
  · rintro s a s' hr ⟨hg, hs⟩ - hstep
    have hi := Inv.of_reach hr
    have hstep := (Step.of_step hstep).2
    exact ⟨hg.step hi hstep, hs.step hi (.of_reach hr) hg hstep⟩

/-- The exit status is sound. If the main thread reads `TRANSFER_SUCCEEDED` after `dispose`, then
`invoke_portal` of a download and `invoke_channel` of all its channels have returned `true`; and it
never reads it if some `invoke_channel` has returned `false`. -/
theorem exitStatus_sound {status : Status} (h : (machine isFromServerToClient).Reach s)
    (hread : s.read = some status) :
    (isFromServerToClient = true → status = .succeeded →
      s.portalResult = some true ∧ ∀ c < s.total, s.channelResult c = some true) ∧
    ((∃ c, s.channelResult c = some false) → status ≠ .succeeded) := by
  have hr := Results.of_reach h
  have hi := Inv.of_reach h
  obtain ⟨hdone, rfl⟩ := hr.read status hread
  -- a channel that has failed has stored it before its thread was joined
  have hfailed : ∀ c, s.channelResult c = some false → s.transferResultStatus = .failed := by
    intro c hc
    rcases hr.failed c hc with hstatus | hleaving
    · exact hstatus
    · rcases hi.threads.ended hdone c with hpc | hpc <;>
      · rw [hpc] at hleaving
        rcases hleaving with h | h | h <;> cases h
  constructor
  · rintro rfl hsucceeded
    have hportal := hr.succeeded hsucceeded
    refine ⟨hportal, fun c hc => ?_⟩
    have hsome := (GateCount.of_reach h).2.result hportal c hc
    cases hresult : s.channelResult c with
    | none => exact absurd hresult hsome
    | some result =>
      cases result with
      | true => rfl
      | false =>
        have hstatus := hfailed c hresult
        rw [hsucceeded] at hstatus
        cases hstatus
  · rintro ⟨c, hc⟩
    rw [hfailed c hc]
    nofun

/-- A download through one channel. -/
def exampleDownload : List Action :=
  [.init .connected, .portal, .portalOp true, .portal, .information 1, .portal, .portal, .portal,
    .connected 0 true, .portal, .portalOp true, .portal, .portalOp true, .initInfo true, .portal,
    .portal, .portal, .portal, .portal, .channel 0, .channel 0, .channel 0, .channel 0,
    .transferred 0 true, .channel 0, .channel 0, .channel 0, .channel 0, .portal, .portalOp true,
    .portal, .portal, .portal, .main, .main, .dispose, .dispose, .dispose, .dispose, .dispose,
    .dispose, .dispose, .dispose, .dispose, .dispose, .dispose, .dispose, .dispose, .main, .main]

lemma exampleDownload_read :
    ((machine true).run {} exampleDownload).map (·.read) = some (some .succeeded) := by
  decide +kernel

/-- The main thread reads the success of the download. -/
theorem exitStatus_sound_exampleDownload :
    ∃ s, (machine true).run {} exampleDownload = some s ∧ s.read = some .succeeded ∧
      s.portalResult = some true ∧ ∀ c < s.total, s.channelResult c = some true := by
  obtain ⟨s, hrun, hread⟩ := Option.map_eq_some_iff.mp exampleDownload_read
  have hreach := Machine.Reach.of_run (.init rfl) hrun
  exact ⟨s, hrun, hread, (exitStatus_sound hreach hread).1 rfl rfl⟩

end ClientPortal

end Xcp
