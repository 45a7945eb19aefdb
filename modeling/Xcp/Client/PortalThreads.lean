import Xcp.Client.PortalInvariants

/-!
# The threads of a client

Every channel that the portal thread has started is in `channels` until `dispose_impl` has joined
its thread, so that no thread of the client runs any more when `dispose` returns.
-/

namespace Xcp

namespace ClientPortal

variable {isFromServerToClient : Bool} {s s' : State} {a : Action}

/-- How far the loop of `dispose_impl` over the channels has come: the channels that it has passed
are done. -/
def Passed (channels : List ℕ) (chan : ℕ → ChannelPc) : DisposerPc → Prop
  | .disposeChannel rest => ∀ c ∈ channels, c ∈ rest ∨ chan c = .done
  | .joinChannel c rest  => ∀ i ∈ channels, i = c ∨ i ∈ rest ∨ chan i = .done
  | .done                => ∀ c, chan c = .absent ∨ chan c = .done
  | _ => True

attribute [grind =] Passed

lemma passed_of_stage {d : DisposerPc} (hd : d.stage ≤ 10) (channels : List ℕ)
    (chan : ℕ → ChannelPc) : Passed channels chan d := by
  cases d with
  | disposeChannel | joinChannel | done => exact absurd hd (by simp [DisposerPc.stage])
  | _ => trivial

/-- Where the threads of the channels are. -/
structure Threads (s : State) : Prop where
  before : s.portal.BeforeChannels → ∀ c, s.chan c = .absent
  creating : ∀ k, s.portal = .creating k → ∀ c, s.chan c ≠ .absent → c < k
  adding : ∀ k, s.portal = .adding k → k < s.total ∧ ∀ c, s.chan c ≠ .absent → c ≤ k
  total : ∀ c, s.chan c ≠ .absent → c < s.total
  started : s.disposer ≠ .done → ∀ c, s.chan c ≠ .absent → c ∈ s.channels ∨ s.portal = .adding c
  passed : Passed s.channels s.chan s.disposer

/-- A channel that is running moves on. -/
lemma Threads.move {c : ℕ} {pc : ChannelPc} (hs : Threads s) (hportal : s'.portal = s.portal)
    (htotal : s'.total = s.total) (hchannels : s'.channels = s.channels)
    (hd : s'.disposer = s.disposer ∨ s.disposer = .idle ∧ s'.disposer = .disposeSocket)
    (hchan : s'.chan = Function.update s.chan c pc)
    (hpc : s.chan c ≠ .absent ∧ s.chan c ≠ .done) : Threads s' := by
  obtain ⟨hbefore, hcreating, hadding, htotal', hstarted, hpassed⟩ := hs
  have hother : ∀ i, (s'.chan i ≠ .absent → s.chan i ≠ .absent) ∧
      (s.chan i = .absent → s'.chan i = .absent) ∧ (s.chan i = .done → s'.chan i = .done) := by
    intro i
    rw [hchan, Function.update_apply]
    split_ifs with hi
    · subst hi
      exact ⟨fun _ => hpc.1, fun h => absurd h hpc.1, fun h => absurd h hpc.2⟩
    · exact ⟨id, id, id⟩
  constructor
  · rw [hportal]
    exact fun h i => (hother i).2.1 (hbefore h i)
  · rw [hportal]
    exact fun k hk i hi => hcreating k hk i ((hother i).1 hi)
  · rw [hportal, htotal]
    exact fun k hk => ⟨(hadding k hk).1, fun i hi => (hadding k hk).2 i ((hother i).1 hi)⟩
  · rw [htotal]
    exact fun i hi => htotal' i ((hother i).1 hi)
  · rw [hportal, hchannels]
    intro hne i hi
    refine hstarted ?_ i ((hother i).1 hi)
    grind -linarith
  · rcases hd with hd | ⟨-, hd⟩
    · rw [hd, hchannels]
      cases hpc' : s.disposer <;> grind -linarith
    · rw [hd]
      trivial

lemma Threads.startDispose (hs : Threads s) : Threads s.startDispose := by
  obtain ⟨hbefore, hcreating, hadding, htotal, hstarted, hpassed⟩ := hs
  unfold State.startDispose
  split_ifs with hd
  · dsimp only [State.setDisposer]
    constructor <;> first | assumption | grind -linarith
  · exact ⟨hbefore, hcreating, hadding, htotal, hstarted, hpassed⟩

lemma Threads.mainStep (hs : Threads s) (ht : Teardown s) (h : MainStep s s') : Threads s' := by
  cases h with
  | connected hpc =>
    obtain ⟨hidle, habsent⟩ := ht.init hpc
    have hchan := hs.before (by rw [habsent]; trivial)
    obtain ⟨hbefore, hcreating, hadding, htotal, hstarted, hpassed⟩ := hs
    dsimp only [State.setMain]
    constructor <;> first | assumption | grind -linarith
  | dispose =>
    have h := hs.startDispose
    exact ⟨h.before, h.creating, h.adding, h.total, h.started, h.passed⟩
  | noTransfer | notConnected | waitExit | waitDispose | read =>
    exact ⟨hs.before, hs.creating, hs.adding, hs.total, hs.started, hs.passed⟩

@[grind =] lemma beforeChannels_use (op : SocketOp) :
    (PortalPc.use op).BeforeChannels ↔ op = .recvVersion ∨ op = .recvInformation := by
  cases op <;> simp [PortalPc.BeforeChannels]

@[grind =] lemma beforeChannels_inside (op : SocketOp) :
    (PortalPc.inside op).BeforeChannels ↔ op = .recvVersion ∨ op = .recvInformation := by
  cases op <;> simp [PortalPc.BeforeChannels]

/-- The portal thread moves on. -/
lemma Threads.portalStep (hs : Threads s) (ht : Teardown s)
    (h : PortalStep isFromServerToClient s s') : Threads s' := by
  have hended := ht.portal
  have hrefused := ht.refused
  have hrundown := ht.rundown
  cases h with
  | exit hpc =>
    have hpc' : s.startDispose.portal = .exit := by rwa [startDispose_eq]
    obtain ⟨hbefore, hcreating, hadding, htotal, hstarted, hpassed⟩ := hs.startDispose
    dsimp only [State.setPortal]
    constructor <;> first | assumption | grind -linarith
  | useNull | transferNull | signalCount | invokeNullSocket =>
    exact ⟨hs.before, hs.creating, hs.adding, hs.total, hs.started, hs.passed⟩
  | create hpc =>
    have hstage : s.disposer.stage ≤ 10 := by grind -linarith
    have hpassed := passed_of_stage hstage
    have hlt := hs.creating _ hpc
    obtain ⟨hbefore, hcreating, hadding, htotal, hstarted, -⟩ := hs
    dsimp only [State.setPortal, State.setChan]
    constructor <;> first | assumption | grind -linarith
  | add hpc =>
    have hstage : s.disposer.stage ≤ 10 := by grind -linarith
    have hpassed := passed_of_stage hstage
    have hle := hs.adding _ hpc
    obtain ⟨hbefore, hcreating, hadding, htotal, hstarted, -⟩ := hs
    dsimp only [State.setPortal, State.setChan]
    constructor <;> first | assumption | grind -linarith
  | _ =>
    obtain ⟨hbefore, hcreating, hadding, htotal, hstarted, hpassed⟩ := hs
    dsimp only [State.setPortal, State.setChan]
    constructor <;> first | assumption | grind -linarith

lemma Threads.channelStep {c : ℕ} (hs : Threads s)
    (h : ChannelStep isFromServerToClient s c s') : Threads s' := by
  cases h with
  | transferNull =>
    exact ⟨hs.before, hs.creating, hs.adding, hs.total, hs.started, hs.passed⟩
  | @exit success hpc =>
    have hpc' : s.chan c ≠ .absent ∧ s.chan c ≠ .done := by
      rw [hpc]
      exact ⟨nofun, nofun⟩
    cases success with
    | true => exact hs.move rfl rfl rfl (.inl rfl) rfl hpc'
    | false =>
      rw [startDispose_eq]
      refine hs.move rfl rfl rfl ?_ rfl hpc'
      dsimp only [State.setChan]
      grind -linarith
  | connected hpc | notConnected hpc | waitReady hpc | checkDisposed hpc | checkNormal hpc
  | assertTransfer hpc | invoke hpc | transferred hpc | signalFinished hpc | setFinished hpc
  | storeFailed hpc | storeNothing hpc =>
    refine hs.move rfl rfl rfl (.inl rfl) rfl ?_
    rw [hpc]
    exact ⟨nofun, nofun⟩

lemma Threads.disposeStep (hs : Threads s) (ht : Teardown s) (h : DisposeStep s s') :
    Threads s' := by
  have hended := ht.portal
  obtain ⟨hbefore, hcreating, hadding, htotal, hstarted, hpassed⟩ := hs
  cases h <;>
  · dsimp only [State.setDisposer]
    constructor <;> first | assumption | grind -linarith

lemma Threads.step (hs : Threads s) (ht : Teardown s) (h : Step isFromServerToClient s a s') :
    Threads s' := by
  cases h with
  | main h => exact hs.mainStep ht h
  | signal => exact ⟨hs.before, hs.creating, hs.adding, hs.total, hs.started, hs.passed⟩
  | portal h => exact hs.portalStep ht h
  | channel h => exact hs.channelStep h
  | dispose _ h => exact hs.disposeStep ht h

/-- The channel that the portal thread starts has not been started before. -/
lemma Threads.absent {k : ℕ} (hs : Threads s) (hpc : s.portal = .creating k) :
    s.chan k = .absent := by
  by_contra hne
  exact lt_irrefl k (hs.creating k hpc k hne)

/-- No thread runs any more when `dispose_impl` has ended. -/
lemma Threads.ended (hs : Threads s) (hd : s.disposer = .done) (c : ℕ) :
    s.chan c = .absent ∨ s.chan c = .done := by
  have h := hs.passed
  rw [hd] at h
  exact h c

/-! ### Reachable clients -/

/-- The invariants of a client. -/
structure Inv (s : State) : Prop where
  teardown : Teardown s
  started : Started s
  threads : Threads s

lemma Inv.start : Inv {} where
  teardown := by constructor <;> simp [DisposerPc.stage]
  started := by constructor <;> simp [ChannelPc.PastCheck]
  threads := by constructor <;> simp [Passed]

lemma Inv.step (hs : Inv s) (h : Step isFromServerToClient s a s') : Inv s' where
  teardown := hs.teardown.step h
  started := hs.started.step hs.teardown h
  threads := hs.threads.step hs.teardown h

/-- The invariants hold of every state that a client reaches. -/
lemma Inv.of_reach {C : State → Action → Prop}
    (h : (machine isFromServerToClient).ReachIf C s) : Inv s := by
  refine h.invariant ?_ fun s a s' _ hs _ hstep => hs.step (Step.of_step hstep).2
  rintro s rfl
  exact .start

end ClientPortal

end Xcp
