import Mathlib
import Xcp.Transfer.DestinationInvariants

/-!
# The gate of the channels

`_gate_all_channels_finished` counts the channels that have left `invoke_channel`, whatever they
return. Unless `dispose_impl` has forced it, it is set only when all of them have returned.
-/

namespace Xcp

namespace Destination

variable {F N : ℕ} {info : BasicTransferInfo F} {os : OsAnswers info} {e : Bytes.Endian}
  {s s' : State F N} {a : Action N}

/-- The channel has signalled the gate. -/
def Pc.Signalled : Pc F → Prop
  | .setEvent _ | .returned _ => True
  | _ => False

/-- The channel has left `invoke_channel`. -/
def Pc.Returned (pc : Pc F) : Prop := ∃ result, pc = .returned result

instance : DecidablePred (Pc.Signalled (F := F)) := fun pc => by
  cases pc <;> simp only [Pc.Signalled] <;> infer_instance

lemma Pc.Returned.signalled {pc : Pc F} (h : pc.Returned) : pc.Signalled := by
  obtain ⟨result, rfl⟩ := h
  trivial

/-- The channel has given up. -/
def Pc.Failed : Pc F → Prop
  | .exit false | .setEvent false | .returned false => True
  | _ => False

/-- The channel has received its tail. -/
def Pc.Finished : Pc F → Prop
  | .exit true | .setEvent true | .returned true => True
  | _ => False

/-- `dispose_impl` has overwritten the count of the gate. -/
def Forced (s : State F N) : Prop := s.disposer = .setEvent ∨ s.disposer = .done

/-- The channels that have signalled the gate. -/
def signalled (s : State F N) : Finset (Fin N) :=
  Finset.univ.filter fun c => (s.chan c).Signalled

/-- What a step means for the gate. -/
inductive GateChange (s s' : State F N) : Prop where
  | same (hgate : s'.gateAllChannelsFinished = s.gateAllChannelsFinished)
      (hforced : Forced s → Forced s')
      (hold : ∀ c, (s.chan c).Signalled → s'.chan c = s.chan c)
      (hnew : ∀ c, ¬ (s.chan c).Signalled → ¬ (s'.chan c).Signalled)
  | signal {c result} (hpc : s.chan c = .exit result)
      (hgate : s'.gateAllChannelsFinished = s.gateAllChannelsFinished.increment)
      (hforced : Forced s → Forced s')
      (hchan : s'.chan = Function.update s.chan c
        (if s.gateAllChannelsFinished.increment.reached then .setEvent result
          else .returned result))
  | set {c result} (hpc : s.chan c = .setEvent result)
      (hgate : s'.gateAllChannelsFinished = s.gateAllChannelsFinished.set)
      (hforced : Forced s → Forced s')
      (hchan : s'.chan = Function.update s.chan c (.returned result))
  | forced (h : Forced s')

/-- A channel that has not signalled and is not about to moves on without signalling. -/
lemma GateChange.of_setPc {t : State F N} {c : Fin N} {pc : Pc F}
    (hgate : t.gateAllChannelsFinished = s.gateAllChannelsFinished)
    (hd : t.disposer = s.disposer) (hchan : t.chan = s.chan)
    (hpc : ¬ (s.chan c).Signalled) (hpc' : ¬ pc.Signalled) : GateChange s (t.setPc c pc) := by
  refine .same hgate (fun h => by simpa [Forced, hd] using h) (fun i hi => ?_) (fun i hi => ?_)
  · have hic : i ≠ c := fun heq => hpc (heq ▸ hi)
    rw [State.chan_setPc, Function.update_of_ne hic, hchan]
  · rw [State.chan_setPc]
    by_cases hic : i = c
    · subst hic
      rwa [Function.update_self]
    · rwa [Function.update_of_ne hic, hchan]

lemma countReceived_gateChange {c : Fin N} {blockSize : ℕ} {n : Fin F}
    (hpc : s.chan c = .count blockSize n) : GateChange s (s.countReceived c blockSize n) := by
  have hnot : ¬ (s.chan c).Signalled := by rw [hpc]; exact id
  unfold State.countReceived
  simp only
  split_ifs
  · exact .of_setPc rfl rfl rfl hnot id
  · exact .of_setPc rfl rfl rfl hnot id
  · exact .same rfl id (fun _ _ => rfl) (fun _ h => h)

lemma Step.gateChange (h : Step e s a s') (hs : Fixed info s) : GateChange s s' := by
  have habort : GateChange s s.abort := .same rfl id (fun _ _ => rfl) fun _ h => h
  have hdispose : ∀ {t : State F N},
      t.gateAllChannelsFinished = s.gateAllChannelsFinished → t.chan = s.chan →
      ¬ Forced s → GateChange s t := fun hgate hchan hnot =>
    .same hgate (fun h => absurd h hnot) (fun c _ => congrFun hchan c)
      fun c h => by rwa [congrFun hchan c]
  cases h with
  | recvHeader hpc | headerFailed hpc | checkTail hpc | mapped hpc | disposed hpc | load hpc
  | unmap hpc | close hpc | report hpc | recvBody hpc | bodyFailed hpc =>
    exact .of_setPc rfl rfl rfl (by rw [hpc]; exact id) id
  | badTail | badIndex | unmapped => exact habort
  | count hpc hs' => exact hs' ▸ countReceived_gateChange hpc
  | @signal c result hpc _ hs' =>
    rw [State.signal, if_pos hs.initialized] at hs'
    subst hs'
    exact .signal hpc rfl id rfl
  | setEvent hpc => exact .set hpc rfl id rfl
  | disposeStart hd => exact hdispose rfl rfl (by simp [Forced, hd])
  | disposeClose hd => exact hdispose rfl rfl (by simp [Forced, hd])
  | disposeUnmap hd => exact hdispose rfl rfl (by simp [Forced, hd])
  | disposeForce | disposeNoGate | disposeSet => exact .forced (by simp [Forced])

/-- What holds of the gate until it is forced: it has counted the channels that have signalled it,
a channel that is about to set it is the last one, and it is set only after all have returned. -/
structure GateInv (s : State F N) : Prop where
  count : s.gateAllChannelsFinished.currSignalCount = (signalled s).card
  last : ∀ c result, s.chan c = .setEvent result →
    s.gateAllChannelsFinished.isSet = false ∧ ∀ i, i ≠ c → (s.chan i).Returned
  isSet : s.gateAllChannelsFinished.isSet = true → ∀ c, (s.chan c).Returned

lemma GateInv.step (hI : GateInv s) (hs : Fixed info s) (h : GateChange s s')
    (hnot : ¬ Forced s') : GateInv s' := by
  cases h with
  | same hgate hforced hold hnew =>
    have hiff : ∀ c, (s'.chan c).Signalled ↔ (s.chan c).Signalled := fun c =>
      ⟨fun h => by_contra fun h' => hnew c h' h, fun h => by rwa [hold c h]⟩
    have hret : ∀ c, (s.chan c).Returned → (s'.chan c).Returned := fun c h => by
      rwa [hold c h.signalled]
    refine ⟨?_, fun c result hpc => ?_, fun h c => ?_⟩
    · rw [hgate, hI.count]
      congr 1
      ext c
      simp [signalled, hiff]
    · have hsig : (s.chan c).Signalled := (hiff c).mp (by rw [hpc]; trivial)
      obtain ⟨hset, hothers⟩ := hI.last c result (by rw [← hold c hsig, hpc])
      exact ⟨by rw [hgate, hset], fun i hi => hret i (hothers i hi)⟩
    · exact hret c (hI.isSet (by rwa [← hgate]) c)
  | @signal c result hpc hgate hforced hchan =>
    have hc : ¬ (s.chan c).Signalled := by rw [hpc]; exact id
    -- nobody else is about to set the gate, and it is not set
    have hnone : ∀ i r, s.chan i ≠ .setEvent r := by
      intro i r hi
      have hne : c ≠ i := by rintro rfl; rw [hpc] at hi; cases hi
      exact hc ((hI.last i r hi).2 c hne).signalled
    have hunset : s.gateAllChannelsFinished.isSet = false := by
      by_contra h
      exact hc (hI.isSet (by simpa using h) c).signalled
    have hothers : ∀ i, i ≠ c → (s.chan i).Signalled → (s'.chan i).Returned := by
      intro i hi hsig
      rw [hchan, Function.update_of_ne hi]
      cases hpci : s.chan i with
      | returned r => exact ⟨r, rfl⟩
      | setEvent r => exact absurd hpci (hnone i r)
      | _ => rw [hpci] at hsig; exact hsig.elim
    have hcard : (signalled s').card = (signalled s).card + 1 := by
      have heq : signalled s' = insert c (signalled s) := by
        ext i
        simp only [signalled, Finset.mem_filter, Finset.mem_univ, true_and, Finset.mem_insert,
          hchan]
        by_cases hi : i = c
        · subst hi
          simp only [Function.update_self, true_or, iff_true]
          split_ifs <;> trivial
        · simp [hi]
      rw [heq, Finset.card_insert_of_notMem (by simpa [signalled] using hc)]
    have hle : (signalled s').card ≤ N := by simpa using Finset.card_le_univ (signalled s')
    have hlt : (signalled s).card + 1 < 2 ^ 64 := by
      have := hs.lt
      unfold invalidSignalCount at this
      omega
    have hcount : s'.gateAllChannelsFinished.currSignalCount = (signalled s').card := by
      rw [hgate, GateGuard.increment, hI.count, toU64_of_lt hlt, hcard]
    have hstill : s'.gateAllChannelsFinished.isSet = false := by
      rw [hgate, GateGuard.isSet_increment, hunset]
    refine ⟨hcount, fun i r hi => ⟨hstill, fun j hj => ?_⟩, fun h => ?_⟩
    · have hic : i = c := by
        by_contra hic
        rw [hchan, Function.update_of_ne hic] at hi
        exact hnone i r hi
      subst hic
      rw [hchan, Function.update_self] at hi
      split_ifs at hi with hreached
      rw [← hgate, GateGuard.reached_iff, hcount, hgate, GateGuard.atLeastSignal_increment,
        hs.atLeastSignal_eq] at hreached
      have hall : signalled s' = Finset.univ := Finset.card_eq_iff_eq_univ _ |>.mp (by simpa)
      have hsig : (s'.chan j).Signalled := by
        have := Finset.mem_univ j
        rw [← hall] at this
        exact (Finset.mem_filter.mp this).2
      rw [hchan, Function.update_of_ne hj] at hsig
      exact hothers j hj hsig
    · rw [hstill] at h
      cases h
  | @set c result hpc hgate hforced hchan =>
    obtain ⟨hunset, hothers⟩ := hI.last c result hpc
    have hall : ∀ i, (s'.chan i).Returned := by
      intro i
      rw [hchan]
      by_cases hi : i = c
      · subst hi
        exact ⟨result, Function.update_self _ _ _⟩
      · rw [Function.update_of_ne hi]
        exact hothers i hi
    refine ⟨?_, fun i r hi => ?_, fun _ => hall⟩
    · rw [hgate, GateGuard.currSignalCount_set, hI.count]
      congr 1
      ext i
      have hi : (s.chan i).Signalled := by
        by_cases hic : i = c
        · rw [hic, hpc]; trivial
        · exact (hothers i hic).signalled
      simp [signalled, hi, (hall i).signalled]
    · obtain ⟨r', hr'⟩ := hall i
      rw [hr'] at hi
      cases hi
  | forced h => exact absurd h hnot

/-- The event of the gate stays set. -/
lemma Step.isSet (h : Step e s a s') (hset : s.gateAllChannelsFinished.isSet = true) :
    s'.gateAllChannelsFinished.isSet = true := by
  cases h with
  | count hpc hs' => rwa [← hs', (countReceived_fixed _ _ _).2.2]
  | signal hpc hs' =>
    rw [← hs', State.signal]
    split_ifs <;> exact hset
  | setEvent | disposeSet => rfl
  | _ => exact hset

/-- Until `dispose`, a channel gives up only when its `recv` fails. -/
lemma Step.failed_iff (h : Step e s a s') (hd : s.disposer = .idle) (c : Fin N) :
    (s'.chan c).Failed ↔ (s.chan c).Failed ∨ ∃ bytes, a = .recvFailed c bytes := by
  by_cases hc : a.actor = some c
  · cases h with
    | headerFailed | bodyFailed =>
      cases hc
      exact iff_of_true (by rw [State.chan_setPc, Function.update_self]; trivial) (.inr ⟨_, rfl⟩)
    | disposed _ _ _ _ hd' => exact absurd hd hd'
    | @count c' blockSize n hpc _ hs' =>
      cases hc
      rcases chan_countReceived (s := s) c blockSize n with heq | heq | heq <;>
        simp [← hs', heq, hpc, Pc.Failed]
    | @signal c' result hpc _ hs' =>
      cases hc
      rcases chan_signal (s := s) c result with heq | heq | heq <;> cases result <;>
        simp [← hs', heq, hpc, Pc.Failed]
    | @setEvent c' result hpc =>
      cases hc
      cases result <;> simp [hpc, Pc.Failed]
    | badTail hpc | badIndex hpc | unmapped hpc =>
      cases hc
      simp [State.abort, hpc, Pc.Failed]
    | recvHeader hpc | recvBody hpc | checkTail hpc | mapped hpc | load hpc | unmap hpc
    | close hpc | report hpc =>
      cases hc
      simp [hpc, Pc.Failed]
    | disposeStart | disposeClose | disposeUnmap | disposeForce | disposeNoGate | disposeSet =>
      cases hc
  · have hne : ∀ bytes, a ≠ .recvFailed c bytes := by
      rintro bytes rfl
      exact hc rfl
    simp [h.chan_of_ne hc, hne]

lemma Forced.step (h : GateChange s s') (hs : Forced s) : Forced s' := by
  cases h with
  | same _ hforced | signal _ _ hforced | set _ _ hforced => exact hforced hs
  | forced h => exact h

/-- Until it is forced, the gate is set only after every channel has returned. -/
lemma reach_gateInv (h : (machine os N e).Reach s) : Forced s ∨ GateInv s := by
  refine h.invariant (I := fun s => Forced s ∨ GateInv s) (fun s hs => ?_)
    fun s a s' hs hI _ hstep => ?_
  · have hinit := Initial.of_init hs
    refine .inr ⟨?_, fun c result hpc => ?_, fun h => ?_⟩
    · have hempty : signalled s = ∅ := Finset.filter_eq_empty_iff.mpr fun c _ => by
        rw [hinit.chan_eq c]
        exact id
      rw [hinit.gate_eq, hempty]
      rfl
    · rw [hinit.chan_eq c] at hpc
      cases hpc
    · rw [hinit.gate_eq] at h
      cases h
  · have hfixed := reach_fixed hs
    have hchange := (Step.of_step hstep).2.gateChange hfixed
    rcases hI with hforced | hI
    · exact .inl (hforced.step hchange)
    · by_cases hf : Forced s'
      · exact .inl hf
      · exact .inr (hI.step hfixed hchange hf)

end Destination

end Xcp
