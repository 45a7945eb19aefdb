import Xcp.Library.Tiling
import Xcp.Transfer.DestinationInvariants

/-!
# What the destination counts

As long as the peer does not send more of a file than it holds, `received_size` of a file and the
blocks that are written and not counted yet add up to what has been written of it, and the `ASSERT`
on the count never fails.
-/

namespace Xcp

open Tiling

namespace Destination

variable {F N : ℕ} {info : BasicTransferInfo F} {os : OsAnswers info} {e : Bytes.Endian}
  {s s' : State F N} {a : Action N}

namespace Pc

/-- The bytes of file `n` that a channel has written and not counted. -/
def uncounted (n : Fin F) : Pc F → ℕ
  | count blockSize m => if m = n then blockSize else 0
  | _ => 0

/-- The bytes that a channel has written and not reported. -/
def unreported : Pc F → ℕ
  | count blockSize _ | unmap blockSize _ | close blockSize _ | report blockSize => blockSize
  | _ => 0

@[simp] lemma uncounted_count (n m : Fin F) (blockSize : ℕ) :
    (count blockSize m).uncounted n = if m = n then blockSize else 0 := rfl

end Pc

/-- How much of file `n` has been written. -/
def written (s : State F N) (n : Fin F) : ℕ := ∑ c, amount (s.received c) n

/-- What is written has been counted, but for the blocks that are about to be. -/
def Counted (s : State F N) : Prop :=
  ∀ n, (s.recvCtx n).receivedSize + ∑ c, (s.chan c).uncounted n = written s n

/-- What is written has been reported, but for the blocks that are about to be. -/
def Reported (s : State F N) : Prop :=
  ∃ t, s.transferredSize = toU64 t ∧ t + ∑ c, (s.chan c).unreported = ∑ n, written s n

/-- When one channel moves, a sum over the program counters changes by its share. -/
lemma sum_chan_update {A : Type*} [AddCommMonoid A] (f : Pc F → A) (chan : Fin N → Pc F)
    (c : Fin N) (pc : Pc F) :
    ∑ i, f (Function.update chan c pc i) + f (chan c) = ∑ i, f (chan i) + f pc := by
  refine sum_add_eq_sum_add c (fun i hi => ?_) ?_
  · rw [Function.update_of_ne hi]
  · rw [Function.update_self, add_comm]

lemma written_addReceived (c : Fin N) (b : Block F) (n : Fin F) :
    written (s.addReceived c b) n = written s n + if b.nFile = n then b.body.length else 0 := by
  rw [written, written, add_comm]
  refine sum_eq_add_sum c (fun i hi => ?_) ?_
  · rw [State.received_addReceived, Function.update_of_ne hi]
  · rw [State.received_addReceived, Function.update_self, amount_append, amount_cons, amount_nil,
      add_zero, add_comm]

/-- The counts of a channel that moves between program counters outside the count. -/
lemma Counted.of_setPc (h : Counted s) {t : State F N} {c : Fin N} {pc : Pc F}
    (hsize : ∀ n, (t.recvCtx n).receivedSize = (s.recvCtx n).receivedSize)
    (hchan : t.chan = s.chan) (hreceived : t.received = s.received)
    (hpc : ∀ n, (s.chan c).uncounted n = 0) (hpc' : ∀ n, pc.uncounted n = 0) :
    Counted (t.setPc c pc) := by
  intro n
  have hsum := sum_chan_update (Pc.uncounted n) s.chan c pc
  rw [hpc, hpc', add_zero, add_zero] at hsum
  have hwritten : written (t.setPc c pc) n = written s n := by simp [written, hreceived]
  rw [hwritten, ← h n, State.recvCtx_setPc, hsize, State.chan_setPc, hchan, hsum]

lemma Reported.of_setPc (h : Reported s) {t : State F N} {c : Fin N} {pc : Pc F}
    (htransferred : t.transferredSize = s.transferredSize)
    (hchan : t.chan = s.chan) (hreceived : t.received = s.received)
    (hpc : pc.unreported = (s.chan c).unreported) : Reported (t.setPc c pc) := by
  obtain ⟨u, hu, hsum⟩ := h
  refine ⟨u, by rw [State.transferredSize_setPc, htransferred, hu], ?_⟩
  have hmoved := sum_chan_update Pc.unreported s.chan c pc
  have hwritten : ∀ n, written (t.setPc c pc) n = written s n := fun n => by
    simp [written, hreceived]
  rw [Finset.sum_congr rfl fun n _ => hwritten n, ← hsum, State.chan_setPc, hchan]
  omega

/-- A block that is counted is part of what is written. -/
lemma Counted.add_le (h : Counted s) {c : Fin N} {blockSize : ℕ} {n : Fin F}
    (hpc : s.chan c = .count blockSize n) :
    (s.recvCtx n).receivedSize + blockSize ≤ written s n := by
  rw [← h n]
  have hle : (s.chan c).uncounted n ≤ ∑ c, (s.chan c).uncounted n :=
    Finset.single_le_sum (f := fun c => (s.chan c).uncounted n) (fun i _ => Nat.zero_le _)
      (Finset.mem_univ c)
  rw [hpc, Pc.uncounted_count, if_pos rfl] at hle
  omega

/-- The count of a block when the file does not hold less than what is written: the `ASSERT` holds,
and the channel completes the file or goes on. -/
lemma countReceived_of_le (h : Counted s) (hle : ∀ n, written s n ≤ (s.filesInfo n).fileSize)
    {c : Fin N} {blockSize : ℕ} {n : Fin F} (hpc : s.chan c = .count blockSize n) :
    s.countReceived c blockSize n =
      (s.setCtx n { s.recvCtx n with
        receivedSize := (s.recvCtx n).receivedSize + blockSize }).setPc c
          (if (s.recvCtx n).receivedSize + blockSize = (s.filesInfo n).fileSize
            then .unmap blockSize n else .report blockSize) := by
  have hadd := (h.add_le hpc).trans (hle n)
  have hlt := toU64_of_lt (hadd.trans_lt (s.filesInfo n).fileSize_lt)
  unfold State.countReceived
  simp only [hlt, if_pos hadd]
  split_ifs <;> rfl

lemma Counted.count (h : Counted s) {c : Fin N} {blockSize : ℕ} {n : Fin F} {pc : Pc F}
    (hpc : s.chan c = .count blockSize n) (hpc' : ∀ m, pc.uncounted m = 0) :
    Counted ((s.setCtx n { s.recvCtx n with
      receivedSize := (s.recvCtx n).receivedSize + blockSize }).setPc c pc) := by
  intro m
  have hsum := sum_chan_update (Pc.uncounted m) s.chan c pc
  rw [hpc', add_zero, hpc] at hsum
  refine Eq.trans ?_ (h m)
  simp only [State.recvCtx_setPc, State.recvCtx_setCtx, State.chan_setPc, State.chan_setCtx]
  by_cases hm : m = n
  · subst hm
    rw [Pc.uncounted_count, if_pos rfl] at hsum
    rw [Function.update_self]
    simp only
    omega
  · rw [Pc.uncounted_count, if_neg (Ne.symm hm), add_zero] at hsum
    rw [Function.update_of_ne hm, hsum]

/-- A body that is written waits to be counted and reported. -/
lemma Counted.recvBody (h : Counted s) {c : Fin N} {b : Block F} {t : State F N}
    (hctx : t.recvCtx = s.recvCtx) (hchan : t.chan = s.chan) (hreceived : t.received = s.received)
    (hpc : ∀ n, (s.chan c).uncounted n = 0) :
    Counted ((t.addReceived c b).setPc c (.count b.body.length b.nFile)) := by
  intro n
  have hsum := sum_chan_update (Pc.uncounted n) s.chan c (.count b.body.length b.nFile)
  rw [hpc, add_zero] at hsum
  have hwritten : written ((t.addReceived c b).setPc c (.count b.body.length b.nFile)) n =
      written s n + if b.nFile = n then b.body.length else 0 := by
    rw [← written_addReceived c]
    simp [written, hreceived]
  have hchan' : (t.addReceived c b).chan = s.chan := hchan
  have hctx' : (t.addReceived c b).recvCtx = s.recvCtx := hctx
  rw [hwritten, ← h n, State.chan_setPc, hchan', State.recvCtx_setPc, hctx', hsum,
    Pc.uncounted_count, add_assoc]

lemma Reported.recvBody (h : Reported s) {c : Fin N} {b : Block F} {t : State F N}
    (htransferred : t.transferredSize = s.transferredSize) (hchan : t.chan = s.chan)
    (hreceived : t.received = s.received) (hpc : (s.chan c).unreported = 0) :
    Reported ((t.addReceived c b).setPc c (.count b.body.length b.nFile)) := by
  obtain ⟨u, hu, hsum⟩ := h
  refine ⟨u, htransferred.trans hu, ?_⟩
  have hmoved := sum_chan_update Pc.unreported s.chan c (.count b.body.length b.nFile)
  have hwritten : ∀ n, written ((t.addReceived c b).setPc c (.count b.body.length b.nFile)) n =
      written s n + if b.nFile = n then b.body.length else 0 := fun n => by
    rw [← written_addReceived c]
    simp [written, hreceived]
  have hchan' : (t.addReceived c b).chan = s.chan := hchan
  have htotal : ∑ n, (if b.nFile = n then b.body.length else 0) = b.body.length := by simp
  rw [Finset.sum_congr rfl fun n _ => hwritten n, Finset.sum_add_distrib, htotal, ← hsum,
    State.chan_setPc, hchan']
  simp only [Pc.unreported] at hpc hmoved ⊢
  omega

/-- A step keeps the counts as long as no file is exceeded. -/
lemma Counted.step (h : Counted s) (hle : ∀ n, written s n ≤ (s.filesInfo n).fileSize)
    (hstep : Step e s a s') (hs : Fixed info s) : Counted s' := by
  cases hstep with
  | recvBody hpc hlen =>
    subst hlen
    exact h.recvBody rfl rfl rfl fun n => by rw [hpc]; rfl
  | badTail | badIndex | unmapped => exact h
  | count hpc hs' =>
    rw [countReceived_of_le h hle hpc] at hs'
    subst hs'
    refine h.count hpc fun m => ?_
    split_ifs <;> rfl
  | @signal c result hpc _ hs' =>
    rw [State.signal, if_pos hs.initialized] at hs'
    subst hs'
    refine h.of_setPc (fun _ => rfl) rfl rfl (fun n => by rw [hpc]; rfl) fun n => ?_
    split_ifs <;> rfl
  | @unmap c blockSize n hpc =>
    refine h.of_setPc (fun m => ?_) rfl rfl (fun n => by rw [hpc]; rfl) fun _ => rfl
    rw [State.recvCtx_unmapFile]
    by_cases hm : m = n
    · subst hm
      simp
    · rw [Function.update_of_ne hm]
  | @close c blockSize n hpc =>
    refine h.of_setPc (fun m => ?_) rfl rfl (fun n => by rw [hpc]; rfl) fun _ => rfl
    rw [State.recvCtx_closeHandle]
    by_cases hm : m = n
    · subst hm
      simp
    · rw [Function.update_of_ne hm]
  | recvHeader hpc | headerFailed hpc | bodyFailed hpc | checkTail hpc | mapped hpc | disposed hpc
  | load hpc | report hpc | setEvent hpc =>
    exact h.of_setPc (fun _ => rfl) rfl rfl (fun n => by rw [hpc]; rfl) fun _ => rfl
  | disposeStart | disposeForce | disposeNoGate | disposeSet => exact h
  | @disposeClose n hd =>
    intro m
    refine Eq.trans ?_ (h m)
    simp only [State.recvCtx_setDisposer, State.recvCtx_closeHandle, State.chan_setDisposer,
      State.chan_closeHandle]
    by_cases hm : m = n
    · subst hm
      simp
    · rw [Function.update_of_ne hm]
  | @disposeUnmap n hd =>
    intro m
    refine Eq.trans ?_ (h m)
    simp only [State.recvCtx_setDisposer, State.recvCtx_unmapFile, State.chan_setDisposer,
      State.chan_unmapFile]
    by_cases hm : m = n
    · subst hm
      simp
    · rw [Function.update_of_ne hm]

lemma Reported.step (h : Reported s) (hc : Counted s)
    (hle : ∀ n, written s n ≤ (s.filesInfo n).fileSize) (hstep : Step e s a s')
    (hs : Fixed info s) : Reported s' := by
  cases hstep with
  | recvBody hpc hlen =>
    subst hlen
    exact h.recvBody rfl rfl rfl (by rw [hpc]; rfl)
  | badTail | badIndex | unmapped => exact h
  | count hpc hs' =>
    rw [countReceived_of_le hc hle hpc] at hs'
    subst hs'
    refine h.of_setPc rfl rfl rfl ?_
    rw [hpc]
    split_ifs <;> rfl
  | @signal c result hpc _ hs' =>
    rw [State.signal, if_pos hs.initialized] at hs'
    subst hs'
    refine h.of_setPc rfl rfl rfl ?_
    rw [hpc]
    split_ifs <;> rfl
  | @report c blockSize hpc =>
    obtain ⟨u, hu, hsum⟩ := h
    have hmoved := sum_chan_update Pc.unreported s.chan c .header
    rw [hpc] at hmoved
    refine ⟨u + blockSize, ?_, ?_⟩
    · simp [State.addTransferred, hu, toU64]
    · refine Eq.trans ?_ hsum
      rw [State.chan_setPc, State.chan_addTransferred]
      simp only [Pc.unreported] at hmoved ⊢
      omega
  | recvHeader hpc | headerFailed hpc | bodyFailed hpc | checkTail hpc | mapped hpc | disposed hpc | load hpc
  | unmap hpc | close hpc | setEvent hpc =>
    exact h.of_setPc rfl rfl rfl (by rw [hpc]; rfl)
  | disposeStart | disposeClose | disposeUnmap | disposeForce | disposeNoGate | disposeSet =>
    exact h

end Destination

end Xcp
