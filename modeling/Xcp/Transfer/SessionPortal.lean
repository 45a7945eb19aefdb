import Xcp.Transfer.SessionCopy

/-!
# What the portals learn

The portal thread of the destination waits for a gate that counts the channels that have left
`invoke_channel`, and then reports success whatever they have returned. So the report is right
exactly when no `recv` of a channel has failed before it.
-/

namespace Xcp

namespace Session

variable {F N : ℕ} {cfg : Config F N} {s s' : State F N} {a : Action N}
  {C : State F N → Action N → Prop}

/-- The portals and the gate: the destination reports after the gate has been set, it is not
disposed before its portal socket, and the source returns `true` only after the report. -/
structure Portals (s : State F N) : Prop where
  isSet : s.destinationPortal ≠ .wait → s.destination.gateAllChannelsFinished.isSet = true
  idle : s.portalOpen = true → s.destination.disposer = .idle
  sent : s.portalWire ≠ [] ∨ s.sourcePortal = .returned true →
    s.destinationPortal = .returned true

lemma Portals.destinationStep (hI : Portals s) {b : Destination.Action N}
    (h : Destination.Step cfg.destinationEndian s.destination b s'.destination)
    (hb : s.portalOpen = true → b ≠ .dispose) (hopen : s'.portalOpen = s.portalOpen)
    (hdp : s'.destinationPortal = s.destinationPortal) (hsp : s'.sourcePortal = s.sourcePortal)
    (hwire : s'.portalWire = s.portalWire) : Portals s' where
  isSet := by
    rw [hdp]
    exact fun hne => h.isSet (hI.isSet hne)
  idle := by
    rw [hopen]
    exact fun ho => (h.disposer_eq (hb ho)).trans (hI.idle ho)
  sent := by
    rw [hdp, hsp, hwire]
    exact hI.sent

lemma Portals.step (hI : Portals s) (h : Step cfg s a s') : Portals s' := by
  cases h with
  | send | sendTail | source | sendFailed => exact ⟨hI.isSet, hI.idle, hI.sent⟩
  | recv _ _ h | recvFailed _ _ h | run _ h =>
    exact hI.destinationStep h (fun _ => by nofun) rfl rfl rfl rfl
  | dispose hclosed _ h =>
    refine hI.destinationStep h (fun hopen => ?_) rfl rfl rfl rfl
    rw [hclosed] at hopen
    cases hopen
  | closePortal => exact ⟨hI.isSet, by nofun, hI.sent⟩
  | wakePortal hpc hset =>
    refine ⟨fun _ => hset, hI.idle, fun h => ?_⟩
    have := hI.sent h
    rw [hpc] at this
    cases this
  | sendFinished hpc => exact ⟨fun _ => hI.isSet (by rw [hpc]; nofun), hI.idle, fun _ => rfl⟩
  | sendFinishedFailed hpc =>
    refine ⟨fun _ => hI.isSet (by rw [hpc]; nofun), hI.idle, fun h => ?_⟩
    have := hI.sent h
    rw [hpc] at this
    cases this
  | recvFinished hpc hwire =>
    exact ⟨hI.isSet, hI.idle, fun _ => hI.sent (.inl (by rw [hwire]; nofun))⟩
  | recvFinishedFailed hpc =>
    refine ⟨hI.isSet, hI.idle, fun h => hI.sent (h.imp_right ?_)⟩
    nofun

lemma reach_portals (h : (machine cfg).ReachIf C s) : Portals s := by
  refine h.invariant (I := Portals) (fun s hs => ?_) fun s a s' _ hI _ hstep =>
    hI.step (Step.of_step hstep)
  obtain ⟨_, _, -, hdestination, rfl⟩ := hs
  exact ⟨fun h => absurd rfl h, fun _ => (Destination.Initial.of_init hdestination).disposer_eq,
    by simp⟩

/-- When the portal of the destination is about to report, all channels have returned. -/
lemma returned_of_send (hs : (machine cfg).ReachIf C s) (hpc : s.destinationPortal = .send)
    (hopen : s.portalOpen = true) (c : Fin N) : (s.destination.chan c).Returned := by
  have hI := reach_portals hs
  have hforced : ¬ Destination.Forced s.destination := by
    simp [Destination.Forced, hI.idle hopen]
  have hgate := (Destination.reach_gateInv (reach_destination hs)).resolve_left hforced
  exact hgate.isSet (hI.isSet (by simp [hpc])) c

/-! ### Which channels have failed -/

lemma Step.portalOpen (h : Step cfg s a s') (hopen : s'.portalOpen = true) :
    s.portalOpen = true := by
  cases h with
  | closePortal => cases hopen
  | _ => exact hopen

lemma Step.failed_iff (h : Step cfg s a s') (hs : (machine cfg).ReachIf C s)
    (hopen : s'.portalOpen = true) (c : Fin N) :
    (s'.destination.chan c).Failed ↔
      (s.destination.chan c).Failed ∨ ∃ count, a = .recvFailed c count := by
  have hidle := (reach_portals hs).idle (h.portalOpen hopen)
  cases h with
  | recv _ _ h | run _ h | dispose _ _ h => simpa using h.failed_iff hidle c
  | @recvFailed c' count _ _ _ h =>
    have hiff := h.failed_iff hidle c
    simpa using hiff
  | _ => simp

/-- While the portal socket is open, the channels that have given up are those whose `recv` has
failed. -/
lemma failed_iff_of_run (hs : (machine cfg).Reach s) {as : List (Action N)} {t : State F N}
    (hrun : (machine cfg).run s as = some t) (hopen : t.portalOpen = true) (c : Fin N) :
    s.portalOpen = true ∧ ((t.destination.chan c).Failed ↔
      (s.destination.chan c).Failed ∨ ∃ count, .recvFailed c count ∈ as) := by
  induction as generalizing s with
  | nil =>
    cases hrun
    exact ⟨hopen, by simp⟩
  | cons a as ih =>
    simp only [Machine.run_cons, Option.bind_eq_some_iff] at hrun
    obtain ⟨s₁, ha, hrun⟩ := hrun
    obtain ⟨hopen₁, hiff⟩ := ih (.step hs trivial ha) hrun
    have hstep := Step.of_step ha
    refine ⟨hstep.portalOpen hopen₁, ?_⟩
    rw [hiff, hstep.failed_iff hs hopen₁ c, or_assoc, ← exists_or]
    simp only [List.mem_cons, eq_comm]

lemma not_failed_of_init (hs : (machine cfg).init s) (c : Fin N) :
    ¬ (s.destination.chan c).Failed := by
  obtain ⟨_, _, -, hdestination, rfl⟩ := hs
  rw [(Destination.Initial.of_init hdestination).chan_eq c]
  exact id

/-! ### Reports -/

/-- No `recv` of a channel has failed before the destination reports success. -/
def LostAfterReport (as : List (Action N)) : Prop :=
  ∀ pre, pre ++ [.sendFinished] <+: as → ∀ c count, .recvFailed c count ∉ pre

/-- Whenever the destination reports success in a run, all its channels have returned `true`. -/
def ReportsTruth (cfg : Config F N) (s₀ : State F N) (as : List (Action N)) : Prop :=
  ∀ pre t, pre ++ [.sendFinished] <+: as → (machine cfg).run s₀ pre = some t →
    ∀ c, t.destination.chan c = .returned true

lemma run_of_isPrefix {s₀ : State F N} {as pre : List (Action N)}
    (hrun : (machine cfg).run s₀ as = some s) (hpre : pre ++ [a] <+: as) :
    ∃ t t', (machine cfg).run s₀ pre = some t ∧ Step cfg t a t' := by
  obtain ⟨post, rfl⟩ := hpre
  rw [List.append_assoc, Machine.run_append, Option.bind_eq_some_iff] at hrun
  obtain ⟨t, ht, hrun⟩ := hrun
  rw [List.singleton_append, Machine.run_cons, Option.bind_eq_some_iff] at hrun
  obtain ⟨t', ha, -⟩ := hrun
  exact ⟨t, t', ht, Step.of_step ha⟩

/-- At the report a channel has returned `true` unless its `recv` has failed. -/
lemma returned_true_iff {s₀ : State F N} (hs₀ : (machine cfg).init s₀) {pre : List (Action N)}
    {t : State F N} (hrun : (machine cfg).run s₀ pre = some t)
    (hstep : Step cfg t .sendFinished s') (c : Fin N) :
    t.destination.chan c = .returned true ↔ ∀ count, .recvFailed c count ∉ pre := by
  have hreach : (machine cfg).Reach t := Machine.Reach.of_run (.init hs₀) hrun
  cases hstep with
  | sendFinished hpc hopen =>
    obtain ⟨-, hiff⟩ := failed_iff_of_run (.init hs₀) hrun hopen c
    obtain ⟨result, hresult⟩ := returned_of_send hreach hpc hopen c
    rw [or_iff_right (not_failed_of_init hs₀ c), hresult] at hiff
    rw [← not_exists, ← hiff, hresult]
    cases result <;> simp [Destination.Pc.Failed]

lemma reportsTruth_iff {s₀ : State F N} (hs₀ : (machine cfg).init s₀) {as : List (Action N)}
    (hrun : (machine cfg).run s₀ as = some s) :
    ReportsTruth cfg s₀ as ↔ LostAfterReport as := by
  constructor
  · intro h pre hpre c
    obtain ⟨t, t', ht, hstep⟩ := run_of_isPrefix hrun hpre
    exact (returned_true_iff hs₀ ht hstep c).mp (h pre t hpre ht c)
  · intro h pre t hpre ht c
    obtain ⟨t₁, t', ht₁, hstep⟩ := run_of_isPrefix hrun hpre
    cases ht.symm.trans ht₁
    exact (returned_true_iff hs₀ ht hstep c).mpr (h pre hpre c)

/-- After a report that was right, all channels have returned `true`. -/
lemma returned_of_reported {s₀ : State F N} {as : List (Action N)} (hs₀ : (machine cfg).init s₀)
    (h : ReportsTruth cfg s₀ as) (hrun : (machine cfg).run s₀ as = some s)
    (hpc : s.destinationPortal = .returned true) (c : Fin N) :
    s.destination.chan c = .returned true := by
  induction as using List.reverseRecOn generalizing s with
  | nil =>
    cases hrun
    obtain ⟨_, _, -, -, rfl⟩ := hs₀
    cases hpc
  | append_singleton as a ih =>
    rw [Machine.run_append, Option.bind_eq_some_iff] at hrun
    obtain ⟨t, ht, hrun⟩ := hrun
    rw [Machine.run_cons, Option.bind_eq_some_iff] at hrun
    obtain ⟨s', ha, hrun⟩ := hrun
    cases hrun
    have hstep := Step.of_step ha
    have hcases : a = .sendFinished ∨ t.destinationPortal = .returned true := by
      cases hstep with
      | sendFinished => exact .inl rfl
      | sendFinishedFailed | wakePortal => cases hpc
      | _ => exact .inr hpc
    rcases hcases with rfl | hpc'
    · cases hstep
      exact h as t List.prefix_rfl ht c
    · have hold := ih (fun pre u hpre => h pre u (hpre.trans (List.prefix_append _ _))) ht hpc'
      rcases hstep.destination with heq | ⟨b, hb⟩
      · rwa [heq]
      · rwa [hb.chan_of_ne fun hc => hb.not_returned hc true hold]

/-- The report of the destination is right, and the source that believes it knows that all files
have been received, exactly if no `recv` of a channel fails before the report. -/
theorem report_sound_iff {s₀ : State F N} (hs₀ : (machine cfg).init s₀) {as : List (Action N)}
    (hrun : (machine cfg).run s₀ as = some s) :
    (ReportsTruth cfg s₀ as ∧ (s.sourcePortal = .returned true →
      ∀ n, (s.destination.recvCtx n).receivedSize = (s.destination.filesInfo n).fileSize)) ↔
    LostAfterReport as := by
  rw [← reportsTruth_iff hs₀ hrun]
  refine ⟨And.left, fun h => ⟨h, fun hpc => ?_⟩⟩
  have hreach : (machine cfg).Reach s := Machine.Reach.of_run (.init hs₀) hrun
  have hreported := (reach_portals hreach).sent (.inr hpc)
  apply receivedSize_eq hreach
  intro c
  rw [returned_of_reported hs₀ h hrun hreported c]
  trivial

/-- The byte is sent, received and reported. -/
def oneByteReported : List (Action 1) :=
  oneByteSends ++ oneByteReceives ++ oneByteReturns ++ [.wakePortal, .sendFinished, .recvFinished]

theorem report_sound_oneByte :
    ∃ s, (machine oneByteSession).run oneByteSessionStart oneByteReported = some s ∧
      s.sourcePortal = .returned true ∧
      ((ReportsTruth oneByteSession oneByteSessionStart oneByteReported ∧
        (s.sourcePortal = .returned true →
          ∀ n, (s.destination.recvCtx n).receivedSize = (s.destination.filesInfo n).fileSize)) ↔
      LostAfterReport oneByteReported) := by
  have hends : ((machine oneByteSession).run oneByteSessionStart oneByteReported).map
      (·.sourcePortal) = some (.returned true) := by decide +kernel
  obtain ⟨s, hrun, hpc⟩ := Option.map_eq_some_iff.mp hends
  exact ⟨s, hrun, hpc, report_sound_iff oneByteSessionStart_init hrun⟩

/-- The byte is sent, but the connection is lost before the destination has received it. -/
def oneByteLost : List (Action 1) :=
  let c : Fin 1 := .last 0
  oneByteSends ++ [.recvFailed c 0, .run c, .run c, .wakePortal, .sendFinished, .recvFinished]

/-- The channel returns `false`, the file is not received, and both portals return `true`. -/
theorem report_unsound_oneByte :
    ∃ s, (machine oneByteSession).run oneByteSessionStart oneByteLost = some s ∧
      s.destination.chan 0 = .returned false ∧ (s.destination.recvCtx 0).receivedSize = 0 ∧
      (s.destination.filesInfo 0).fileSize = 1 ∧ s.destinationPortal = .returned true ∧
      s.sourcePortal = .returned true ∧
      ¬ ReportsTruth oneByteSession oneByteSessionStart oneByteLost := by
  have hends : ((machine oneByteSession).run oneByteSessionStart oneByteLost).map
      (fun s => (s.destination.chan 0, (s.destination.recvCtx 0).receivedSize,
        (s.destination.filesInfo 0).fileSize, s.destinationPortal, s.sourcePortal)) =
      some (.returned false, 0, 1, .returned true, .returned true) := by decide +kernel
  obtain ⟨s, hrun, heq⟩ := Option.map_eq_some_iff.mp hends
  simp only [Prod.mk.injEq] at heq
  obtain ⟨hchan, hreceived, hsize, hdp, hsp⟩ := heq
  refine ⟨s, hrun, hchan, hreceived, hsize, hdp, hsp, fun h => ?_⟩
  have hstart := oneByteSessionStart_init
  rw [returned_of_reported hstart h hrun hdp 0] at hchan
  cases hchan

end Session

end Xcp
