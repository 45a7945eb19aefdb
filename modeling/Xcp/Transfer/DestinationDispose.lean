import Xcp.Transfer.DestinationInvariants

/-!
# Disposing a receiving transfer

`dispose_impl` closes the descriptor of each file and then calls `unmap_file`, which does nothing
on Linux once the descriptor is closed. So it releases everything only when no file is mapped any
more, that is, when every file that is not empty has been received completely.
-/

namespace Xcp

open Outcome

namespace Destination

variable {F N : ℕ} {info : BasicTransferInfo F} {os : OsAnswers info} {e : Bytes.Endian}
  {s : State F N}

/-- Nothing is left: no context has a mapping or a descriptor, and every region and descriptor
that was obtained has been released exactly once. -/
structure Released (s : State F N) : Prop where
  unmapped : ∀ n, (s.recvCtx n).dstFileMapped = none
  closed : ∀ n, (s.recvCtx n).fileHandle = none
  munmap_once : ∀ addr length, .mmap addr length ∈ s.syscalls →
    s.syscalls.count (.munmap addr length) = 1
  close_once : ∀ fd, .open fd ∈ s.syscalls → s.syscalls.count (.close fd) = 1

/-- `unmap_file` after `close_handle` does nothing. -/
lemma unmapFile_closeHandle (s : State F N) (n : Fin F) :
    (s.closeHandle n).unmapFile n = s.closeHandle n := by
  have hctx : (((s.closeHandle n).recvCtx n).unmapFile) = ((s.recvCtx n).closeHandle.1, []) := by
    simp only [State.recvCtx_closeHandle, Function.update_self]
    rw [RecvFileContext.unmapFile, RecvFileContext.fileHandle_closeHandle]
  rw [State.unmapFile, hctx]
  simp [State.closeHandle, State.setCtx]

/-- The two steps of `dispose_impl` for one file. -/
lemma run_disposeFile (n : Fin F) (hd : s.disposer = .closeHandle n) (ha : s.aborted = false) :
    (machine os N e).run s [.dispose, .dispose] =
      some ((s.closeHandle n).setDisposer (.closeHandle (n + 1))) := by
  have hclose : (machine os N e).step s .dispose =
      some ((s.closeHandle n).setDisposer (.unmapFile n)) := by
    rw [machine_step, step_dispose ha]
    simp [State.disposeStep, hd]
  have hunmap : (machine os N e).step ((s.closeHandle n).setDisposer (.unmapFile n)) .dispose =
      some (((s.closeHandle n).unmapFile n).setDisposer (.closeHandle (n + 1))) := by
    rw [machine_step, step_dispose (by simpa using ha)]
    simp only [State.disposeStep, State.setDisposer, n.isLt, dif_pos]
    rfl
  rw [Machine.run_cons_of_step hclose, Machine.run_cons_of_step hunmap, unmapFile_closeHandle,
    Machine.run_nil]

variable (os e) in
/-- The rest of `dispose_impl` closes the remaining files and unmaps none. -/
lemma run_disposeFiles {j k : ℕ} (hjk : k + j = F)
    (hgate : s.gateAllChannelsFinished.initialized) (ha : s.aborted = false)
    (hd : s.disposer = .closeHandle k) :
    ∃ s', (machine os N e).run s (List.replicate (2 * j + 2) .dispose) = some s' ∧
      s'.disposer = .done ∧
      (∀ n, (s'.recvCtx n).dstFileMapped = (s.recvCtx n).dstFileMapped) ∧
      (∀ n : Fin F, k ≤ n → (s'.recvCtx n).fileHandle = none) ∧
      ∀ n, (s.recvCtx n).fileHandle = none → (s'.recvCtx n).fileHandle = none := by
  induction j generalizing s k with
  | zero =>
    have hforce : (machine os N e).step s .dispose =
        some ((s.setGate s.gateAllChannelsFinished.force).setDisposer .setEvent) := by
      rw [machine_step, step_dispose ha]
      simp [State.disposeStep, hd, show ¬ k < F by omega, hgate]
    have hset : (machine os N e).step
        ((s.setGate s.gateAllChannelsFinished.force).setDisposer .setEvent) .dispose =
        some ((s.setGate s.gateAllChannelsFinished.force.set).setDisposer .done) := by
      rw [machine_step, step_dispose (by simpa using ha)]
      rfl
    refine ⟨(s.setGate s.gateAllChannelsFinished.force.set).setDisposer .done, ?_, rfl,
      fun _ => rfl, fun n hn => absurd n.isLt (by omega), fun _ h => h⟩
    exact (Machine.run_cons_of_step hforce _).trans (Machine.run_cons_of_step hset _)
  | succ j ih =>
    have hk : k < F := by omega
    have hfile : (machine os N e).run s [.dispose, .dispose] = some _ :=
      run_disposeFile ⟨k, hk⟩ hd ha
    obtain ⟨s', hrun, hdone, hmapped, hclosed, hstill⟩ :=
      ih (s := (s.closeHandle ⟨k, hk⟩).setDisposer (.closeHandle (k + 1))) (by omega) hgate ha rfl
    refine ⟨s', ?_, hdone, fun n => ?_, fun n hn => ?_, fun n hn => ?_⟩
    · rw [show 2 * (j + 1) + 2 = 2 + (2 * j + 2) by omega, List.replicate_add]
      exact (Machine.run_append_of_run hfile _).trans hrun
    · rw [hmapped]
      by_cases hnk : n = ⟨k, hk⟩
      · subst hnk
        simp
      · simp [Function.update_of_ne hnk]
    · by_cases hnk : n = ⟨k, hk⟩
      · subst hnk
        exact hstill _ (by simp)
      · have : (n : ℕ) ≠ k := fun h => hnk (Fin.ext h)
        exact hclosed n (by omega)
    · refine hstill n ?_
      by_cases hnk : n = ⟨k, hk⟩
      · subst hnk
        simp
      · simpa [Function.update_of_ne hnk] using hn

/-- After `dispose` has returned, everything is released exactly if no file was mapped before.
`dispose_impl` runs here from its beginning to its end without a step of a channel in between. -/
theorem dispose_released_iff (hs : (machine os N e).Reach s) (hd : s.disposer = .idle)
    (ha : s.aborted = false) :
    ∃ s', (machine os N e).run s (List.replicate (2 * F + 3) .dispose) = some s' ∧
      s'.disposer = .done ∧ (Released s' ↔ ∀ n, (s.recvCtx n).dstFileMapped = none) := by
  have hstart : (machine os N e).step s .dispose = some (s.setDisposer (.closeHandle 0)) := by
    rw [machine_step, step_dispose ha, State.disposeStep, hd]
  obtain ⟨s', hrun, hdone, hmapped, hclosed, -⟩ :=
    run_disposeFiles os e (s := s.setDisposer (.closeHandle 0)) (Nat.zero_add F)
      (reach_fixed hs).initialized ha rfl
  have hrun' : (machine os N e).run s (List.replicate (2 * F + 3) .dispose) = some s' := by
    rw [List.replicate_succ, Machine.run_cons_of_step hstart, hrun]
  obtain ⟨hres, hrec⟩ := reach_resources (hs.of_run hrun')
  refine ⟨s', hrun', hdone, fun h n => hmapped n ▸ h.unmapped n, fun hnone => ?_⟩
  have hnone' : ∀ n, (s'.recvCtx n).dstFileMapped = none := fun n => by rw [hmapped]; exact hnone n
  refine ⟨hnone', fun n => hclosed n (Nat.zero_le _), fun addr length haddr => ?_, fun fd hfd => ?_⟩
  · obtain ⟨n, hsize, rfl, hn⟩ := hrec.2 addr length haddr
    rcases (hres n).mapping with ⟨hzero, -⟩ | ⟨addr', -, hn', ⟨hsome, -⟩ | ⟨-, hcount⟩⟩
    · omega
    · rw [hnone' n] at hsome
      cases hsome
    · rw [hn] at hn'
      cases hn'
      exact hcount
  · obtain ⟨n, hn⟩ := hrec.1 fd hfd
    obtain ⟨fd', hn', ⟨hopen, -⟩ | ⟨-, hcount⟩⟩ := (hres n).handle
    · rw [hclosed n (Nat.zero_le _)] at hopen
      cases hopen
    · rw [hn] at hn'
      cases hn'
      exact hcount

/-- A file of one byte that has not been received. -/
theorem dispose_oneByte :
    ∃ s', (machine oneByteAnswers 1 .little).run oneByteStart (List.replicate 5 .dispose) = some s' ∧
      s'.disposer = .done ∧
      (Released s' ↔ ∀ n, (oneByteStart.recvCtx n).dstFileMapped = none) :=
  dispose_released_iff (.init oneByteStart_init) rfl rfl

/-- Its mapping survives `dispose`. -/
theorem dispose_leaks_oneByte :
    ∃ s', (machine oneByteAnswers 1 .little).run oneByteStart (List.replicate 5 .dispose) = some s' ∧
      s'.disposer = .done ∧ (s'.recvCtx 0).dstFileMapped = some 4096 ∧
      .mmap 4096 1 ∈ s'.syscalls ∧ s'.syscalls.count (.munmap 4096 1) = 0 ∧ ¬ Released s' := by
  refine ⟨_, rfl, rfl, rfl, by decide, by decide, fun h => ?_⟩
  exact Option.some_ne_none _ (h.unmapped 0)

end Destination

end Xcp
