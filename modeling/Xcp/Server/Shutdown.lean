import Xcp.Server.ClientInstanceProgress
import Xcp.Server.Followers

/-!
# Shutdown of a server

`dispose_impl` of the server takes `clients_mutex` once no socket is accepted any more, and disposes
the instances in the map. An instance that is not there has come to its own removal, so behind this
section every instance is torn down; and no instance follows, because a portal connection checks
`is_dispose_required` under the same lock. The disposal of an instance always goes on.
-/

namespace Xcp

namespace Registry

variable {Id : Type} [DecidableEq Id] {cfg : Config Id} {s s' : State Id} {a : Action Id}

/-! ### Shutdown is complete -/

/-- What is left behind the clients of a server that has been disposed: no entry, no thread inside
`fn_portal` or `fn_channel`, and every channel disposed and joined once. -/
structure Finished (s : State Id) : Prop where
  clients : s.clients = ∅
  portal : ∀ k, s.portal k = .running → ¬ (s.client k).portal.Inside
  channel : ∀ k c, ¬ ((s.client k).chan c).Inside
  released : ∀ k, ∀ c ∈ (s.client k).added, ClientInstance.Released (s.client k) c

lemma Finished.of_done (hi : Inv cfg s) (hr : Registered cfg s) (hdone : s.disposer = .done) :
    Finished s := by
  have hinstance : ∀ k, ClientInstance.Inv (s.client k) := fun k => .of_reach (hi.clients.reach k)
  have hstage : ∀ k, s.portal k = .running → 15 ≤ (s.client k).disposer.stage := by
    intro k hk
    refine (hr.disposed k hk).resolve_left ?_
    rw [hdone]
    exact id
  have hreleased : ∀ k, ∀ c ∈ (s.client k).added, ClientInstance.Released (s.client k) c := by
    intro k c hc
    have hadded := ((hinstance k).channels.added c).mp hc
    have hne : (s.client k).chan c ≠ .absent := by
      intro habsent
      rw [habsent] at hadded
      exact hadded.elim id nofun
    have hk := hi.entries.attached c k ((hi.clients.chan k c).mp hne)
    exact (hinstance k).channels.progress.released (hstage k hk) c hc
  constructor
  · exact hi.entries.empty hdone
  · intro k hk hinside
    exact hinside ((hinstance k).teardown.portal (le_trans (by decide) (hstage k hk)))
  · intro k c hinside
    have hc := ((hinstance k).channels.added c).mpr (.inl hinside)
    rw [(hreleased k c hc).done] at hinside
    exact hinside
  · exact hreleased

/-- The server stays disposed, and no portal connection becomes an instance any more. -/
lemma Step.done (hi : Inv cfg s) (h : Step cfg s a s') (hdone : s.disposer = .done) :
    s'.disposer = .done ∧ ∀ k, s'.portal k = .running → s.portal k = .running := by
  have hchecked := hi.mutex.checked
  cases h with
  | greetPortal hstage hstage' =>
    dsimp only [State.setPortal]
    rcases hstage' with rfl | rfl <;> grind -linarith
  | acceptPortal | lockPortal | checkPortal | refusePortal | registerPortal =>
    dsimp only [State.setPortal]
    grind -linarith
  | shutdown hd | closed hd | lock hd | clear hd | disposed hd | disposeClient hd =>
    rw [hdone] at hd
    cases hd
  | _ => exact ⟨hdone, fun _ => id⟩

lemma done_of_run {as : List (Action Id)} (h : (machine cfg).Reach s) (hdone : s.disposer = .done)
    (hrun : (machine cfg).run s as = some s') :
    s'.disposer = .done ∧ ∀ k, s'.portal k = .running → s.portal k = .running := by
  induction as generalizing s with
  | nil =>
    cases hrun
    exact ⟨hdone, fun _ => id⟩
  | cons a as ih =>
    obtain ⟨t, hstep, hrun⟩ := Option.bind_eq_some_iff.mp hrun
    obtain ⟨hdone', hback⟩ := (Step.of_step hstep).2.done (.of_reach h) hdone
    obtain ⟨hfinal, hback'⟩ := ih (h.step trivial hstep) hdone' hrun
    exact ⟨hfinal, fun k hk => hback k (hback' k hk)⟩

/-- Behind the disposal of the clients of a server, now and in every state that follows, there is no
entry, no thread is inside `fn_portal` or `fn_channel`, every channel that was ever added has been
disposed and joined exactly once, and no instance has been inserted. -/
theorem shutdown_complete {as : List (Action Id)} (h : (machine cfg).Reach s)
    (hdone : s.disposer = .done) (hrun : (machine cfg).run s as = some s')
    (hd : Distinct cfg s') :
    Finished s' ∧ ∀ k, s'.portal k = .running → s.portal k = .running := by
  have hreach : (machine cfg).Reach s' := .of_run h hrun
  obtain ⟨hdone', hback⟩ := done_of_run h hdone hrun
  exact ⟨.of_done (.of_reach hreach) (.of_reach (reachIf_fresh hreach hd)) hdone', hback⟩

/-- A server with a channel is shut down while another socket is still being greeted. -/
def exampleShutdown : List (Action ℕ) :=
  List.flatten [
    exampleChannel, List.replicate 3 (.client 7 (.channel 0)),
    [.acceptPortal 8, .shutdown, .dispose, .dispose, .disposeClient 7],
    List.replicate 7 (.client 7 .dispose), [.client 7 (.portalOp false), .client 7 .portal],
    List.replicate 4 (.client 7 .dispose), List.replicate 4 (.client 7 (.channel 0)),
    List.replicate 4 (.client 7 .dispose), [.dispose, .dispose]]

/-- The socket is greeted after that, and refused. -/
def lateGreeting : List (Action ℕ) := [.greetPortal 8 true, .portal 8, .portal 8]

lemma exampleShutdown_run :
    (((machine numbered).run (start numbered) exampleShutdown).bind fun s =>
      ((machine numbered).run s lateGreeting).map fun s' =>
        (s.disposer, (s'.client 7).added, s'.portal 8)) = some (.done, [0], .rejected) := by
  decide +kernel

theorem shutdown_complete_lateGreeting :
    ∃ s s', (machine numbered).run s lateGreeting = some s' ∧ s.disposer = .done ∧
      (s'.client 7).added = [0] ∧ s'.portal 8 = .rejected ∧ Finished s' ∧
      ∀ k, s'.portal k = .running → s.portal k = .running := by
  obtain ⟨s, hrun, h⟩ := Option.bind_eq_some_iff.mp exampleShutdown_run
  obtain ⟨s', hrun', h⟩ := Option.map_eq_some_iff.mp h
  simp only [Prod.mk.injEq] at h
  obtain ⟨hdone, hadded, hportal⟩ := h
  exact ⟨s, s', hrun', hdone, hadded, hportal,
    shutdown_complete (.of_run (.init numbered_start) hrun) hdone hrun' (numbered_distinct s')⟩

/-! ### Disposal goes on -/

/-- As long as the disposal of an instance in the map has begun and not ended, one of the disposing
thread, its portal thread and the threads of its channels can take a step that waits for nobody
outside. -/
theorem disposal_goes_on (h : (machine cfg).Reach s) (haborted : s.aborted = false) {id : Id}
    {k : ℕ} (hlookup : s.clients.lookup id = some k) (hidle : (s.client k).disposer ≠ .idle)
    (hdone : (s.client k).disposer ≠ .done) :
    ∃ a, ClientInstance.Unblocked (s.client k) a ∧
      ((machine cfg).step s (.client k a)).isSome := by
  have hi : Inv cfg s := .of_reach h
  have hrunning := (hi.entries.lookup id k hlookup).1
  have hfault := hi.clients.fault haborted k
  obtain ⟨a, ha, hstep⟩ :=
    ClientInstance.CanStep.of_disposing (n := cfg.programOptions.totalChannelRepeatsCount)
      hfault (.of_reach (hi.clients.reach k)) hidle hdone
  refine ⟨a, ha, ?_⟩
  have hof : ofClient a = true := by cases a <;> first | rfl | exact ha.elim
  have hclient : (machine cfg).step s (.client k a) = s.clientStep cfg k a :=
    if_neg (by rw [haborted]; exact Bool.false_ne_true)
  rw [hclient, State.clientStep, if_pos ⟨hrunning, hof⟩]
  have howned : ¬ (a = .dispose ∧ (s.client k).disposer = .joinPortal ∧
      s.clients.lookup (cfg.identity k) ≠ some k) := by
    rw [(hi.entries.lookup id k hlookup).2]
    exact fun h => h.2.2 hlookup
  rw [if_neg howned]
  by_cases hremove : a = .dispose ∧ (s.client k).disposer = .remove ∧ s.removal k = .absent
  · rw [if_pos hremove]
    rfl
  · rw [if_neg hremove, Option.isSome_map]
    exact hstep

/-- In that run the disposal goes on while the channel is being joined. -/
lemma exampleShutdown_joins :
    ((machine numbered).run (start numbered) (exampleShutdown.take 35)).map (fun s =>
      (s.aborted, s.clients.lookup 7, (s.client 7).disposer)) =
        some (false, some 7, .joinChannel 0 []) := by
  decide +kernel

theorem disposal_goes_on_exampleShutdown :
    ∃ s, (machine numbered).Reach s ∧ (s.client 7).disposer = .joinChannel 0 [] ∧
      ∃ a, ClientInstance.Unblocked (s.client 7) a ∧
        ((machine numbered).step s (.client 7 a)).isSome := by
  obtain ⟨s, hrun, h⟩ := Option.map_eq_some_iff.mp exampleShutdown_joins
  simp only [Prod.mk.injEq] at h
  obtain ⟨haborted, hlookup, hd⟩ := h
  have hreach : (machine numbered).Reach s := .of_run (.init numbered_start) hrun
  refine ⟨s, hreach, hd, disposal_goes_on hreach haborted hlookup ?_ ?_⟩
  · rw [hd]
    nofun
  · rw [hd]
    nofun

end Registry

end Xcp
