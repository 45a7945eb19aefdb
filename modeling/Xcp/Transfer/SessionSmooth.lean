import Xcp.Transfer.SessionCopy
import Xcp.Transfer.SessionPortal

/-!
# Sessions in which nothing fails

No channel and no portal of the session fails, and a transfer is disposed only after its channels
have returned. Then the portals report nothing but success, and only after all channels have
returned; and the channels go on until they have.
-/

namespace Xcp

namespace Destination

variable {F N : ℕ} {info : BasicTransferInfo F} {os : OsAnswers info} {e : Bytes.Endian}
  {s s' : State F N}

/-- Once all channels have signalled, the gate is set, or one of them is about to set it. -/
def Completes (s : State F N) : Prop :=
  (∀ c, (s.chan c).Signalled) →
    s.gateAllChannelsFinished.isSet = true ∨ ∃ c result, s.chan c = .setEvent result

lemma Completes.step (hs : Completes s) (hI : GateInv s') (hfixed : Fixed info s)
    (h : GateChange s s') (hnot : ¬ Forced s') : Completes s' := by
  intro hall
  cases h with
  | same hgate _ hold hnew =>
    have hsignalled : ∀ c, (s.chan c).Signalled := fun c => by_contra fun h => hnew c h (hall c)
    rw [hgate]
    refine (hs hsignalled).imp_right fun ⟨c, result, hpc⟩ => ⟨c, result, ?_⟩
    rw [hold c (hsignalled c), hpc]
  | @signal c result _ hgate _ hchan =>
    have hcard : (signalled s').card = N := by
      rw [signalled, Finset.filter_true_of_mem fun c _ => hall c, Finset.card_univ, Fintype.card_fin]
    have hreached : s.gateAllChannelsFinished.increment.reached = true := by
      rw [GateGuard.reached_iff, ← hgate, hI.count, hcard, hgate, GateGuard.atLeastSignal_increment,
        hfixed.atLeastSignal_eq]
    refine .inr ⟨c, result, ?_⟩
    rw [hchan, Function.update_self, if_pos hreached]
  | set _ hgate => exact .inl (by rw [hgate]; rfl)
  | forced h => exact absurd h hnot

/-- Until the gate is forced, it is set when all channels have returned. -/
lemma reach_completes (h : (machine os N e).Reach s) : Forced s ∨ Completes s := by
  refine h.invariant (I := fun s => Forced s ∨ Completes s) (fun s hs => ?_)
    fun s a s' hs hI _ hstep => ?_
  · have hinit := Initial.of_init hs
    refine .inr fun hall => ?_
    have hsignalled := hall ⟨0, hinit.pos⟩
    rw [hinit.chan_eq] at hsignalled
    exact hsignalled.elim
  · have hfixed := reach_fixed hs
    have hchange := (Step.of_step hstep).2.gateChange hfixed
    rcases reach_gateInv (hs.step trivial hstep) with hforced | hgate
    · exact .inl hforced
    · by_cases hforced : Forced s'
      · exact .inl hforced
      · rcases hI with hI | hI
        · exact absurd (hI.step hchange) hforced
        · exact .inr (hI.step hgate hfixed hchange hforced)

end Destination

namespace Session

variable {F N : ℕ} {cfg : Config F N} {s s' : State F N} {a : Action N}

/-- Nothing fails, and a transfer is disposed only after its channels have returned. -/
def Smooth (s : State F N) (a : Action N) : Prop :=
  Calm s a ∧ a ≠ .sendFinishedFailed ∧ a ≠ .recvFinishedFailed

/-! ### The portals -/

/-- The portals report nothing but success, and once. -/
structure Reports (s : State F N) : Prop where
  destinationPortal : s.destinationPortal ≠ .returned false
  sourcePortal : s.sourcePortal ≠ .returned false
  portalWire : s.portalWire =
    if s.destinationPortal = .returned true ∧ s.sourcePortal = .recv then [{}] else []

lemma Reports.step (hs : Reports s) (hp : Portals s) (ha : Smooth s a) (h : Step cfg s a s') :
    Reports s' := by
  obtain ⟨hdestination, hsource, hwire⟩ := hs
  cases h with
  | wakePortal hpc =>
    refine ⟨nofun, hsource, hwire.trans ?_⟩
    simp [hpc]
  | sendFinished hpc =>
    have hrecv : s.sourcePortal = .recv := by
      cases hsp : s.sourcePortal with
      | recv => rfl
      | returned r =>
        have hr : r = true := by
          cases r with
          | true => rfl
          | false => exact absurd hsp hsource
        have hreturned := hp.sent (.inr (hsp.trans (by rw [hr])))
        exact absurd (hpc.symm.trans hreturned) nofun
    refine ⟨nofun, hsource, ?_⟩
    rw [hwire]
    simp [hpc, hrecv]
  | sendFinishedFailed => exact absurd rfl ha.2.1
  | @recvFinished msg msgs hpc hqueue =>
    rw [hqueue] at hwire
    split_ifs at hwire with hreturned
    obtain ⟨rfl, rfl⟩ := List.cons.inj hwire
    exact ⟨hdestination, nofun, by simp⟩
  | recvFinishedFailed => exact absurd rfl ha.2.2
  | _ => exact ⟨hdestination, hsource, hwire⟩

/-! ### The files of the source -/

/-- The source closes its files only after its channels have returned. -/
structure Handles (s : State F N) : Prop where
  fileOpen : s.source.disposer = .idle → ∀ n, s.source.fileOpen n = true
  returned : s.source.disposer ≠ .idle → ∀ c, s.source.chan c = .returned true

lemma Handles.sourceStep (hs : Handles s) {a : Source.Action N} {source : Source.State F N}
    (ha : a = .dispose → ∀ c, s.source.chan c = .returned true)
    (h : Source.Step cfg.files s.source a source) (hsource : s'.source = source) : Handles s' := by
  obtain ⟨hopen, hreturned⟩ := hs
  have hlive : ∀ c, (∀ r, s.source.chan c ≠ .returned r) → s.source.disposer = .idle :=
    fun c hc => by_contra fun hd => hc true (hreturned hd c)
  constructor <;> rw [hsource]
  · cases h with
    | @claim c n hpc =>
      unfold Source.State.claim
      simp only
      split_ifs <;> exact hopen
    | disposeStart | disposeClose | disposeDone => nofun
    | _ => exact hopen
  · intro hd
    cases h with
    | @claim c n hpc =>
      have hidle := hlive c (by rw [hpc]; nofun)
      refine absurd ?_ hd
      unfold Source.State.claim
      simp only
      split_ifs <;> exact hidle
    | @send c n curr blockSize next hpc => exact absurd (hlive c (by rw [hpc]; nofun)) hd
    | @report c n blockSize hpc => exact absurd (hlive c (by rw [hpc]; nofun)) hd
    | @sendTail c hpc => exact absurd (hlive c (by rw [hpc]; nofun)) hd
    | @sendFailed c hpc =>
      refine absurd (hlive c fun r => ?_) hd
      rcases hpc with ⟨n, curr, blockSize, hpc⟩ | hpc <;> rw [hpc] <;> nofun
    | disposeStart | disposeClose | disposeDone => exact ha rfl

lemma Handles.step (hs : Handles s) (ha : Smooth s a) (h : Step cfg s a s') : Handles s' := by
  cases h with
  | send h | sendTail h => exact hs.sourceStep (by nofun) h rfl
  | source _ h => exact hs.sourceStep (fun heq => by subst heq; exact ha.1) h rfl
  | sendFailed => exact ha.1.elim
  | _ => exact ⟨hs.fileOpen, hs.returned⟩

/-! ### Reachable sessions -/

/-- What holds of a session in which nothing fails. -/
structure InOrder (cfg : Config F N) (s : State F N) : Prop where
  inv : Inv cfg s
  reports : Reports s
  handles : Handles s
  portals : Portals s
  returned : s.destinationPortal ≠ .wait → ∀ c, s.destination.chan c = .returned true
  copied : (∀ c, s.destination.chan c = .returned true) →
    (∀ c, s.source.chan c = .returned true) ∧ ∀ n, Copied cfg s n
  completes : s.destination.disposer = .idle → (∀ c, s.destination.chan c = .returned true) →
    s.destination.gateAllChannelsFinished.isSet = true
  received : ∀ c, (s.destination.chan c).Finished → s.source.chan c = .returned true

lemma returned_of_isSet (hs : (machine cfg).ReachIf Calm s)
    (hset : s.destination.gateAllChannelsFinished.isSet = true) (c : Fin N) :
    s.destination.chan c = .returned true := by
  have hinv := reach_inv hs
  rcases Destination.reach_gateInv (reach_destination hs) with hforced | hgate
  · refine hinv.disposed.resolve_left (fun hd => ?_) c
    rw [Destination.Forced, hd] at hforced
    rcases hforced with h | h <;> cases h
  · obtain ⟨r, hr⟩ := hgate.isSet hset c
    have hok := hinv.destination_ok c
    rw [hr] at hok ⊢
    cases r with
    | true => rfl
    | false => exact absurd trivial hok

lemma InOrder.of_reach (h : (machine cfg).ReachIf Smooth s) : InOrder cfg s := by
  have hcalm : (machine cfg).ReachIf Calm s := h.mono fun _ _ ha => ha.1
  have hinv := reach_inv hcalm
  have hportals := reach_portals hcalm
  have hboth : Reports s ∧ Handles s := by
    refine h.invariant (I := fun s => Reports s ∧ Handles s) (fun s hs => ?_)
      fun s a s' hs hI ha hstep => ?_
    · obtain ⟨source, destination, ⟨blockSize, -, rfl⟩, -, rfl⟩ := hs
      exact ⟨⟨by simp, by simp, by simp⟩, ⟨fun _ _ => rfl, fun hd => absurd rfl hd⟩⟩
    · have hstep' := Step.of_step hstep
      exact ⟨hI.1.step (reach_portals hs) ha hstep', hI.2.step ha hstep'⟩
  have hfinished : (∀ c, s.destination.chan c = .returned true) →
      ∀ c, (s.destination.chan c).Finished := fun hall c => by rw [hall c]; trivial
  refine ⟨hinv, hboth.1, hboth.2, hportals, fun hne => ?_, fun hall => ⟨fun c => ?_, fun n => ?_⟩,
    fun hd hall => ?_, fun c hc => (finished_of_link hcalm hc).2⟩
  · exact returned_of_isSet hcalm (hportals.isSet hne)
  · exact (finished_of_link hcalm (hfinished hall c)).2
  · exact hinv.copied hcalm (written_eq hcalm (hfinished hall) n)
  · have hforced : ¬ Destination.Forced s.destination := by simp [Destination.Forced, hd]
    have hcompletes := (Destination.reach_completes (reach_destination hcalm)).resolve_left hforced
    refine (hcompletes fun c => by rw [hall c]; trivial).resolve_right ?_
    rintro ⟨c, result, hpc⟩
    rw [hall c] at hpc
    cases hpc

/-! ### The channels go on -/

/-- The actions that are a step of channel `c` of the source. -/
def SourceActs (c : Fin N) (a : Source.Action N) : Prop :=
  a = .claim c ∨ a = .send c 1 ∨ a = .report c ∨ a = .sendTail c

/-- A channel of the source goes on until it has returned. -/
lemma InOrder.source_goes_on (hI : InOrder cfg s) {c : Fin N}
    (hlive : ∀ r, s.source.chan c ≠ .returned r) :
    ∃ a, SourceActs c a ∧ (s.step cfg (.source a)).isSome := by
  have hopen : ∀ n, s.source.fileOpen n = true := hI.handles.fileOpen <|
    by_contra fun hd => hlive true (hI.handles.returned hd c)
  cases hpc : s.source.chan c with
  | claim n =>
    refine ⟨.claim c, .inl rfl, ?_⟩
    simp [State.step, State.sourceStep, Source.State.step, hpc]
  | send n curr blockSize =>
    refine ⟨.send c 1, .inr (.inl rfl), ?_⟩
    simp [State.step, State.sourceStep, Source.State.step, hpc, hopen n,
      ProgramOptionsDefaults.maxTransferBlockSize]
  | report n blockSize =>
    refine ⟨.report c, .inr (.inr (.inl rfl)), ?_⟩
    simp [State.step, State.sourceStep, Source.State.step, hpc]
  | tail =>
    refine ⟨.sendTail c, .inr (.inr (.inr rfl)), ?_⟩
    simp [State.step, State.sourceStep, Source.State.step, hpc]
  | returned r => exact absurd hpc (hlive r)

/-- The channel is inside the loop of `invoke_channel`. -/
def InLoop (pc : Destination.Pc F) : Prop :=
  ∀ r, pc ≠ .exit r ∧ pc ≠ .setEvent r ∧ pc ≠ .returned r

/-- All that a destination channel waits for is on the wire once its source has returned. -/
lemma requested_le (hs : (machine cfg).ReachIf Smooth s) {c : Fin N}
    (hsource : s.source.chan c = .returned true) : s.requested c ≤ (s.wire c).length := by
  have hlink := reach_link hs c
  rw [LinkAt, hsource] at hlink
  unfold State.requested
  cases hpc : s.destination.chan c with
  | header =>
    rw [hpc] at hlink
    obtain ⟨queue, t, -, hwire, ht⟩ := hlink
    have htail : t = finalTail cfg.sourceEndian := ht
    rw [hwire, htail, List.length_append, length_finalTail]
    exact Nat.le_add_left _ _
  | body offset blockSize n ptr =>
    rw [hpc] at hlink
    rcases hlink with ⟨b, queue, t, -, hlength, -, -, hwire, -⟩ | ⟨hfalse, -⟩
    · rw [hwire, List.length_append, hlength]
      exact Nat.le_add_right _ _
    · cases hfalse
  | _ => exact Nat.zero_le _

/-- A channel of the destination goes on until it has left the loop, once its source has
returned. -/
lemma InOrder.destination_goes_on (hI : InOrder cfg s) (hs : (machine cfg).ReachIf Smooth s)
    {c : Fin N} (hsource : s.source.chan c = .returned true)
    (hloop : InLoop (s.destination.chan c)) :
    (s.step cfg (.recv c)).isSome ∨ (s.step cfg (.run c)).isSome := by
  have hlen := requested_le hs hsource
  have habort := hI.inv.aborted
  cases hpc : s.destination.chan c with
  | header =>
    have hrequested : s.requested c = 16 := by simp [State.requested, hpc]
    rw [hrequested] at hlen
    refine .inl ?_
    simp [State.step, hrequested, hlen, Destination.State.step, habort, Destination.State.recv, hpc]
  | body offset blockSize n ptr =>
    have hrequested : s.requested c = blockSize := by simp [State.requested, hpc]
    rw [hrequested] at hlen
    refine .inl ?_
    simp [State.step, hrequested, hlen, Destination.State.step, habort, Destination.State.recv, hpc]
  | exit r => exact absurd hpc (hloop r).1
  | setEvent r => exact absurd hpc (hloop r).2.1
  | returned r => exact absurd hpc (hloop r).2.2
  | _ =>
    refine .inr ?_
    simp [State.step, Destination.State.step, habort, Destination.State.runChannel, hpc]

end Session

end Xcp
